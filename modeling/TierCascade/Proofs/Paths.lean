import Mathlib.Data.List.Basic
import TierCascade.Sink.LineFile
/-!
# Paths to files

Opening the file at a path leaves surroundings in which the path leads to that file
(`Surroundings.Leads`): all that stands on the way are folders, and the file is there. That stays so
whatever is written to a file, so opening it once more finds it again and changes nothing, and reading by
the path gives what the file holds.
-/

namespace TierCascade

namespace Surroundings

variable {s t : Surroundings} {p q file : Place} {path : String} {names : List String}

/-! ### Writing to a file -/

theorem lookup_map_append {key other : List String} (bytes : List UInt8)
    (files : List (List String × List UInt8)) :
    (files.map fun f => if f.1 = key then (f.1, f.2 ++ bytes) else f).lookup other
      = (files.lookup other).map fun old => if other = key then old ++ bytes else old := by
  induction files with
  | nil => rfl
  | cons f files ih =>
    obtain ⟨name, old⟩ := f
    rw [List.map_cons, apply_ite (· :: _), List.lookup_cons]
    by_cases here : other = name
    · subst here
      by_cases same : other = key <;> simp [same]
    · have apart : (other == name) = false := beq_false_of_ne here
      split <;> simp only [List.lookup_cons, apart, ih]

theorem content?_append_self (kept : file ≠ Place.nowhere) (bytes : List UInt8) :
    (s.append file bytes).content? file = (s.content? file).map (· ++ bytes) := by
  simp [content?, append, kept, lookup_map_append]

theorem isFile_append (file : Place) (bytes : List UInt8) (p : Place) :
    (s.append file bytes).isFile p = s.isFile p := by
  by_cases nowhere : p = Place.nowhere <;> simp [isFile, content?, append, nowhere, lookup_map_append]

/-! ### Ways -/

/-- All places that names lead through are folders, and none of them is a file. -/
inductive Passes (s : Surroundings) : Place → List String → Place → Prop
  | here (p : Place) : Passes s p [] p
  | on {p q : Place} {name : String} {names : List String} (folder : s.isFolder (next p name) = true)
      (noFile : s.isFile (next p name) = false) (rest : Passes s (next p name) names q) :
      Passes s p (name :: names) q

namespace Passes

/-- A way stays one where there are more folders, and files only where there were some or no folder was. -/
theorem mono (passes : s.Passes p names q) (folders : ∀ r, s.isFolder r = true → t.isFolder r = true)
    (files : ∀ r, s.isFolder r = true → t.isFile r = s.isFile r) : t.Passes p names q := by
  induction passes with
  | here p => exact .here p
  | on folder noFile _ ih => exact .on (folders _ folder) ((files _ folder).trans noFile) ih

theorem make (passes : s.Passes p names q) : names.foldlM makeStep? (s, p) = some (s, q) := by
  induction passes with
  | here p => rfl
  | on folder noFile _ ih => simp [List.foldlM_cons, makeStep?, noFile, folder, ih]

theorem walk (passes : s.Passes p names q) (start : s.isFolder p = true) :
    names.foldlM s.step? p = some q ∧ s.isFolder q = true := by
  induction passes with
  | here p => exact ⟨rfl, start⟩
  | on folder _ _ ih => simp [List.foldlM_cons, step?, start, folder, ih folder]

end Passes

theorem makeStep?_eq_some {name : String} (made : makeStep? (s, p) name = some (t, q)) :
    q = next p name ∧ s.isFile q = false ∧ t.isFolder q = true ∧ t.files = s.files ∧
      ∀ r, s.isFolder r = true → t.isFolder r = true := by
  unfold makeStep? at made
  dsimp only at made
  split_ifs at made with file folder
  · cases made
    exact ⟨rfl, by simpa using file, folder, rfl, fun _ there => there⟩
  · cases made
    refine ⟨rfl, by simpa using file, ?_, rfl, fun r there => ?_⟩
    · simp [isFolder]
    · simp only [isFolder, Bool.or_eq_true, List.contains_cons] at there ⊢
      tauto

/-- **Going along some names, and making folders where nothing is, leaves a way.** -/
theorem passes_of_make (made : names.foldlM makeStep? (s, p) = some (t, q)) :
    t.Passes p names q ∧ t.files = s.files ∧ ∀ r, s.isFolder r = true → t.isFolder r = true := by
  induction names generalizing s p with
  | nil =>
    cases made
    exact ⟨.here _, rfl, fun _ there => there⟩
  | cons name names ih =>
    obtain ⟨⟨u, r⟩, first, rest⟩ := Option.bind_eq_some_iff.1 ((List.foldlM_cons ..).symm.trans made)
    obtain ⟨rfl, noFile, folder, files, folders⟩ := makeStep?_eq_some first
    obtain ⟨passes, files', folders'⟩ := ih rest
    have same : t.isFile (next p name) = s.isFile (next p name) := by
      rw [isFile, isFile, content?, content?, files', files]
    exact ⟨.on (folders' _ folder) (same.trans noFile) passes, files'.trans files,
      fun r there => folders' r (folders r there)⟩

/-! ### Paths -/

def leafOf (path : String) : String := (wayOf path).2.getLast?.getD ""

/-- A path leads to a file that is there: all before it on the path are folders. -/
structure Leads (s : Surroundings) (path : String) (file : Place) : Prop where
  fits : Surroundings.fits path = true
  leaf : ["", ".", ".."].contains (leafOf path) = false
  way : ∃ p, s.Passes (wayOf path).1 (wayOf path).2.dropLast p ∧ file = leafOf path :: p
  noFolder : s.isFolder file = false
  there : s.isFile file = true

theorem content?_new_of_ne {r : Place} (other : r ≠ file) :
    content? { s with files := (file.reverse, []) :: s.files } r = s.content? r := by
  have apart : (r.reverse == file.reverse) = false := beq_false_of_ne (List.reverse_injective.ne other)
  simp only [content?, List.lookup_cons, apart]

theorem content?_new_self : content? { s with files := (file.reverse, []) :: s.files } file = some [] := by
  simp [content?]

theorem open?_eq_some : s.open? path = some (t, file) ↔
    fits path = true ∧ ["", ".", ".."].contains (leafOf path) = false ∧
      ∃ u p, (wayOf path).2.dropLast.foldlM makeStep? (s, (wayOf path).1) = some (u, p) ∧
        file = leafOf path :: p ∧ u.isFolder file = false ∧
        t = if u.isFile file then u else { u with files := (file.reverse, []) :: u.files } := by
  have leaf : (wayOf path).2.getLast?.getD "" = leafOf path := rfl
  unfold open?
  simp only [leaf]
  constructor
  · intro opened
    split at opened
    · cases opened
    · rename_i fine
      obtain ⟨⟨u, p⟩, made, opened⟩ := Option.bind_eq_some_iff.1 opened
      simp only [not_or, Bool.not_eq_true, Bool.not_eq_false'] at fine
      refine ⟨fine.1, fine.2, u, p, made, ?_⟩
      dsimp only at opened
      split_ifs at opened with folder there
      · cases opened
        exact ⟨rfl, by simpa using folder, (if_pos there).symm⟩
      · cases opened
        exact ⟨rfl, by simpa using folder, (if_neg there).symm⟩
  · rintro ⟨fit, plain, u, p, made, rfl, noFolder, rfl⟩
    rw [if_neg (by simp only [fit, plain]; decide), made]
    simp only [bind, Option.bind, noFolder, Bool.false_eq_true, if_false]
    split <;> rfl

/-- **Opening the file at a path makes the path lead to it.** -/
theorem leads_of_open? (opened : s.open? path = some (t, file)) : t.Leads path file := by
  obtain ⟨fit, leaf, u, p, made, rfl, noFolder, rfl⟩ := open?_eq_some.1 opened
  obtain ⟨passes, -, -⟩ := passes_of_make made
  by_cases there : u.isFile (leafOf path :: p) = true
  · rw [if_pos there]
    exact ⟨fit, leaf, ⟨p, passes, rfl⟩, noFolder, there⟩
  · rw [if_neg there]
    -- The new file is no folder, so it stands nowhere on the way.
    have apart : ∀ r, u.isFolder r = true → r ≠ leafOf path :: p := fun r folder same => by
      rw [same, noFolder] at folder
      cases folder
    refine ⟨fit, leaf, ⟨p, passes.mono (fun _ folder => folder) fun r folder => ?_, rfl⟩, noFolder, ?_⟩
    · rw [isFile, isFile, content?_new_of_ne (apart r folder)]
    · rw [isFile, content?_new_self]
      rfl

theorem content?_of_open? (opened : s.open? path = some (t, file)) :
    t.content? file = some ((s.content? file).getD []) := by
  obtain ⟨-, -, u, p, made, rfl, -, rfl⟩ := open?_eq_some.1 opened
  obtain ⟨-, files, -⟩ := passes_of_make made
  have same : s.content? (leafOf path :: p) = u.content? (leafOf path :: p) := by
    rw [content?, content?, files]
  rw [same]
  by_cases there : u.isFile (leafOf path :: p) = true
  · obtain ⟨old, holds⟩ := Option.isSome_iff_exists.1 there
    rw [if_pos there, holds]
    rfl
  · have none : u.content? (leafOf path :: p) = none := by simpa [isFile] using there
    rw [if_neg there, content?_new_self, none]
    rfl

namespace Leads

/-- **Opening a file once more finds it and changes nothing.** -/
theorem open? (leads : s.Leads path file) : s.open? path = some (s, file) := by
  obtain ⟨p, passes, rfl⟩ := leads.way
  exact open?_eq_some.2
    ⟨leads.fits, leads.leaf, s, p, passes.make, rfl, leads.noFolder, (if_pos leads.there).symm⟩

theorem read? (leads : s.Leads path file) : s.read? path = s.content? file := by
  obtain ⟨p, passes, rfl⟩ := leads.way
  have plain : leafOf path ≠ "" ∧ leafOf path ≠ "." ∧ leafOf path ≠ ".." := by simpa using leads.leaf
  have some : path.isEmpty = false := by
    by_contra empty
    obtain rfl : path = "" := by simpa using empty
    exact plain.1 rfl
  have last : (wayOf path).2.getLast? = Option.some (leafOf path) := by
    cases last : (wayOf path).2.getLast? with
    | some leaf => rw [leafOf, last, Option.getD_some]
    | none => exact absurd (by rw [leafOf, last, Option.getD_none]) plain.1
  have start : s.isFolder (wayOf path).1 = true := by
    simp only [wayOf]
    split <;> simp [isFolder, Place.root]
  obtain ⟨walked, folder⟩ := passes.walk start
  have on : s.step? p (leafOf path) = Option.some (leafOf path :: p) := by
    have place : next p (leafOf path) = leafOf path :: p := by simp [next, plain]
    simp only [step?, place, folder, leads.there, Bool.or_true, Bool.and_true, if_true]
  have all : (wayOf path).2.foldlM s.step? (wayOf path).1 = Option.some (leafOf path :: p) := by
    rw [← List.dropLast_append_getLast? _ last, List.foldlM_append, walked]
    simp [on]
  simp only [Surroundings.read?, some, leads.fits, all]
  rfl

theorem append (leads : s.Leads path file) (other : Place) (bytes : List UInt8) :
    (s.append other bytes).Leads path file := by
  obtain ⟨p, passes, same⟩ := leads.way
  exact ⟨leads.fits, leads.leaf, ⟨p, passes.mono (fun _ folder => folder) fun r _ => isFile_append .., same⟩,
    leads.noFolder, (isFile_append ..).trans leads.there⟩

end Leads

end Surroundings

end TierCascade
