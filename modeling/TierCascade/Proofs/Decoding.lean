import TierCascade.Json.Fields
import TierCascade.Proofs.Maps
import TierCascade.Proofs.Scanning
import TierCascade.Proofs.Wholes
/-!
# Decoders of what was written

A decoder reads a value for a JSON value if it gives the one for every scan that tells the other
(`Decoder.Reads`). So nothing here depends on where in a text the scan was made, and decoders of larger
values follow from those of their parts. A record is read back if its members were written in the order of
its fields, and those that were left out have a value by default (`Fields.Written`).
-/

namespace TierCascade

/-- A double whose text is read as that double. -/
def ReadsBack (x : Float) : Prop := (Layout.wire.numeral? x).bind Numeral.toFloat? = some x

instance (x : Float) : Decidable (ReadsBack x) := inferInstanceAs (Decidable (_ = _))

theorem Numeral.toInt_ofInt (i : Int) : (Numeral.ofInt i).toInt? = some i := by
  have coefficient : (Numeral.ofInt i).coefficient = i.natAbs := rfl
  rw [toInt?, if_pos ⟨rfl, rfl⟩, coefficient]
  by_cases minus : i < 0
  · have negative : (Numeral.ofInt i).negative = true := decide_eq_true minus
    have value : -(i.natAbs : Int) = i := by omega
    rw [if_pos negative, if_neg (show i.natAbs ≠ 0 by omega), value]
  · have positive : ¬ (Numeral.ofInt i).negative = true := fun negative => minus (of_decide_eq_true negative)
    have value : (i.natAbs : Int) = i := by omega
    rw [if_neg positive, value]

namespace Decoder

/-- A decoder takes whatever tells a JSON value for a value. -/
def Reads {α : Type} (decode : Decoder α) (j : Json) (a : α) : Prop := ∀ s : Scan, s.Tells j → decode s = .ok a

variable {α κ υ : Type} {decode : Decoder α} {a : α} {j : Json}

/-! ### Plain values -/

theorem reads_bool (b : Bool) : bool.Reads (.bool b) b := by
  rintro s ⟨⟩
  rfl

theorem reads_string (text : String) : string.Reads (.string text) text := by
  intro s tells
  cases tells with
  | string joined after => simp only [string, joined, String.ofList_toList]

theorem reads_float {x : Float} (back : ReadsBack x) : float.Reads (.float x) x := by
  obtain ⟨n, printed, read⟩ := Option.bind_eq_some_iff.1 back
  rw [Json.float, printed]
  rintro s ⟨⟩
  simp only [float, Scan.useNumber, read]

theorem reads_intWithin {low high i : Int} (word : i.natAbs < 2 ^ 64) (above : low ≤ i) (below : i ≤ high) :
    (intWithin low high).Reads (.int i) i := by
  obtain ⟨x, read⟩ := Numeral.exists_toFloat_ofInt word
  rintro s ⟨⟩
  simp only [intWithin, Scan.useNumber, read, Numeral.toInt_ofInt, if_pos (And.intro above below)]

theorem reads_timestamp {i : Int} (above : lowestInt ≤ i) (below : i ≤ highestInt) :
    timestamp.Reads (.int i) i := by
  refine reads_intWithin ?_ above below
  simp only [lowestInt, highestInt] at above below
  omega

theorem reads_natural {bits n : Nat} (short : bits ≤ 64) (fits : n < 2 ^ bits) :
    (natural bits).Reads (.nat n) n := by
  have word : (n : Int).natAbs < 2 ^ 64 := fits.trans_le (Nat.pow_le_pow_right (by decide) short)
  have below : (n : Int) ≤ (Nat.pow 2 bits - 1 : Nat) := by
    have bound : n < Nat.pow 2 bits := fits
    omega
  intro s tells
  rw [natural, reads_intWithin word (Int.natCast_nonneg n) below s tells]
  rfl

theorem reads_option_none (decode : Decoder α) : (option decode).Reads .null none := by
  rintro s ⟨⟩
  rfl

theorem reads_option_some (reads : decode.Reads j a) (there : j ≠ .null) :
    (option decode).Reads j (some a) := by
  intro s tells
  have read := reads s tells
  cases tells with
  | null => exact absurd rfl there
  | _ => simp only [option, read, Except.map]

theorem reads_variant {find? : String → Option α} {name : String} (found : find? name = some a) :
    (variant find?).Reads (.string name) a := by
  intro s tells
  have named := reads_string name s tells
  cases tells with
  | string joined after =>
    simp only [variant, variantNamed, memberName, named, bind, Except.bind, found]

/-! ### Lists and maps -/

theorem mapM_of_tellsItems {write : α → Json} {as : List α} (reads : ∀ a ∈ as, decode.Reads (write a) a)
    {ss : List Scan} (tells : Scan.TellsItems ss (as.map write)) : ss.mapM decode = .ok as := by
  induction as generalizing ss with
  | nil =>
    cases tells
    rfl
  | cons a as ih =>
    cases tells with
    | cons first rest =>
      rw [List.mapM_cons, reads a List.mem_cons_self _ first,
        ih (fun b mem => reads b (List.mem_cons_of_mem a mem)) rest]
      rfl

theorem reads_list {write : α → Json} {as : List α} (reads : ∀ a ∈ as, decode.Reads (write a) a) :
    (list decode).Reads (.array (as.map write)) as := by
  intro s tells
  cases tells with
  | array items after =>
    simp only [list, mapM_of_tellsItems reads items]
    rfl

theorem mapM_of_tellsMembers {readKey : Scan → String → Except Fault κ} {decode : Decoder υ} {name : κ → String}
    {write : υ → Json} {es : List (κ × υ)} (keys : ∀ node k, readKey node (name k) = .ok k)
    (reads : ∀ e ∈ es, decode.Reads (write e.2) e.2) {ss : List (Scan × Scan)}
    (tells : Scan.TellsMembers ss (es.map fun e => (name e.1, write e.2))) :
    ss.mapM (entry readKey decode) = .ok es := by
  induction es generalizing ss with
  | nil =>
    cases tells
    rfl
  | cons e es ih =>
    cases tells with
    | @cons ps behind s _ _ ss _ named first rest =>
      have title : memberName (.string ps none behind) = .ok (name e.1) :=
        reads_string (name e.1) _ (.string named behind)
      have read : entry readKey decode (.string ps none behind, s) = .ok e := by
        simp only [entry, title, bind, Except.bind, keys, reads e List.mem_cons_self s first]
        rfl
      rw [List.mapM_cons, read, ih (fun e' mem => reads e' (List.mem_cons_of_mem e mem)) rest]
      rfl

theorem reads_members {readKey : Scan → String → Except Fault κ} {decode : Decoder υ} {name : κ → String}
    {write : υ → Json} {es : List (κ × υ)} (keys : ∀ node k, readKey node (name k) = .ok k)
    (reads : ∀ e ∈ es, decode.Reads (write e.2) e.2) :
    (members readKey decode).Reads (.object (es.map fun e => (name e.1, write e.2))) es := by
  intro s tells
  cases tells with
  | object told after =>
    simp only [members, mapM_of_tellsMembers keys reads told]
    rfl

theorem reads_map {decode : Decoder υ} {write : υ → Json} (m : OrderedMap String υ)
    (reads : ∀ e ∈ m.entries, decode.Reads (write e.2) e.2) :
    (map decode).Reads (.object (m.entries.map fun e => (e.1, write e.2))) m := by
  intro s tells
  have entries : members (fun _ name => .ok name) decode s = .ok m.entries :=
    @reads_members String υ _ decode id write _ (fun _ _ => rfl) reads s tells
  rw [map, entries, Except.map, OrderedMap.ofEntries_entries]

end Decoder

/-! ### Records -/

/-- The value of a field that was left out when it was written. -/
def Absence.value? {α : Type} : Absence α → Option α
  | required => none
  | optional a | default a => some a

namespace Fields

def names {σ β : Type} : Fields σ β → List String
  | nil => []
  | cons name _ _ rest => name :: rest.names

/-- The members that were written stand for the values of the fields, in their order. A field that is not
there has its value by default. -/
inductive Written : {σ β : Type} → Fields σ β → List (String × Json) → β → Prop
  | nil : Written nil [] ()
  | member {α σ β : Type} {name : String} {decode : Decoder α} {absence : Absence α} {rest : Fields σ β}
      {j : Json} {ms : List (String × Json)} {a : α} {b : β} (reads : decode.Reads j a)
      (others : Written rest ms b) : Written (cons name decode absence rest) ((name, j) :: ms) (a, b)
  | leftOut {α σ β : Type} {name : String} {decode : Decoder α} {absence : Absence α} {rest : Fields σ β}
      {ms : List (String × Json)} {a : α} {b : β} (stands : absence.value? = some a)
      (others : Written rest ms b) : Written (cons name decode absence rest) ms (a, b)

variable {α σ β γ : Type} {fields : Fields σ β} {ms : List (String × Json)} {b : β}

theorem Written.mem_names (written : fields.Written ms b) {m : String × Json} (mem : m ∈ ms) :
    m.1 ∈ fields.names := by
  induction written with
  | nil => cases mem
  | member _ _ ih =>
    rcases List.mem_cons.1 mem with rfl | later
    · exact List.mem_cons_self
    · exact List.mem_cons_of_mem _ (ih later)
  | leftOut _ _ ih => exact List.mem_cons_of_mem _ (ih mem)

theorem Written.optionalMember {name : String} {decode : Decoder α} {absence : Absence (Option α)}
    {write : α → Json} (stands : absence.value? = some none) (o : Option α)
    (reads : ∀ a ∈ o, decode.Reads (write a) a ∧ write a ≠ .null) (others : fields.Written ms b) :
    (cons name (.option decode) absence fields).Written (Json.optionalMember name write o ++ ms) (o, b) := by
  cases o with
  | none => exact .leftOut stands others
  | some a => exact .member (Decoder.reads_option_some (reads a rfl).1 (reads a rfl).2) others

/-- Members with other names are none of a field's business. -/
theorem readMembers_cons {name : String} {decode : Decoder α} {absence : Absence α} {ss : List (Scan × Scan)}
    (tells : Scan.TellsMembers ss ms) (others : ∀ m ∈ ms, name ≠ m.1) (slot : Option α) (slots : σ) :
    (cons name decode absence fields).readMembers ss (slot, slots)
      = (fields.readMembers ss slots).map fun slots => (slot, slots) := by
  induction ms generalizing ss slots with
  | nil =>
    cases tells
    rfl
  | cons m ms ih =>
    cases tells with
    | @cons ps behind s title j ss _ named first rest =>
      have read : Decoder.memberName (.string ps none behind) = .ok title :=
        Decoder.reads_string title _ (.string named behind)
      have later := ih rest fun m mem => others m (List.mem_cons_of_mem _ mem)
      have apart : name ≠ title := others (title, j) List.mem_cons_self
      simp only [readMembers, read, bind, Except.bind, fill?, if_neg apart]
      cases filled : fields.fill? (.string ps none behind) s title slots with
      | none => simp only [Option.map_none, first.flaw, later]
      | some result =>
        cases result with
        | error fault => rfl
        | ok slots' => exact later slots'

/-- **What was written of a record is read into its fields.** -/
theorem Written.readMembers (written : fields.Written ms b) (distinct : fields.names.Nodup)
    {ss : List (Scan × Scan)} (tells : Scan.TellsMembers ss ms) :
    ∃ slots, fields.readMembers ss fields.start = .ok slots ∧ fields.finish slots = .ok b := by
  induction written generalizing ss with
  | nil =>
    cases tells
    exact ⟨(), rfl, rfl⟩
  | @member α σ β name decode absence rest j ms a b reads others ih =>
    -- No later member has this name, so none is refused as a second one.
    obtain ⟨fresh, distinct⟩ := List.nodup_cons.1 distinct
    cases tells with
    | @cons ps behind s _ _ ss _ named first told =>
      obtain ⟨slots, filled, finished⟩ := ih distinct told
      have title : Decoder.memberName (.string ps none behind) = .ok name :=
        Decoder.reads_string name _ (.string named behind)
      have apart : ∀ m ∈ ms, name ≠ m.1 := fun m mem same => fresh (same ▸ others.mem_names mem)
      refine ⟨(some a, slots), ?_, ?_⟩
      · simp only [Fields.readMembers, title, bind, Except.bind, start, fill?, if_true, reads s first, Except.map]
        rw [readMembers_cons told apart, filled]
        rfl
      · simp only [finish, finished, bind, Except.bind]
        rfl
  | @leftOut α σ β name decode absence rest ms a b stands others ih =>
    obtain ⟨fresh, distinct⟩ := List.nodup_cons.1 distinct
    obtain ⟨slots, filled, finished⟩ := ih distinct tells
    have apart : ∀ m ∈ ms, name ≠ m.1 := fun m mem same => fresh (same ▸ others.mem_names mem)
    refine ⟨(none, slots), ?_, ?_⟩
    · rw [start, readMembers_cons tells apart, filled]
      rfl
    · cases absence with
      | required => cases stands
      | optional value =>
        obtain rfl := Option.some.inj stands
        simp only [finish, finished, bind, Except.bind]
        rfl
      | default value =>
        obtain rfl := Option.some.inj stands
        simp only [finish, finished, bind, Except.bind]
        rfl

end Fields

theorem Decoder.reads_record {σ β γ : Type} {fields : Fields σ β} {ms : List (String × Json)} {b : β}
    (title : String) (build : β → γ) (distinct : fields.names.Nodup) (written : fields.Written ms b) :
    (record title fields build).Reads (.object ms) (build b) := by
  intro s tells
  cases tells with
  | object told after =>
    obtain ⟨slots, filled, finished⟩ := written.readMembers distinct told
    simp only [record, filled, bind, Except.bind, finished]
    rfl

/-- **What a decoder takes a value for it reads from the text of that value.** -/
theorem Decoder.Reads.decodeText {α : Type} {decode : Decoder α} {j : Json} {a : α} (reads : decode.Reads j a) :
    TierCascade.decodeText decode j.compactChars = .ok a := by
  obtain ⟨tells, after⟩ := Scan.ofText_compactChars j
  simp only [TierCascade.decodeText, reads _ tells, after, bind, Except.bind]
  rfl

end TierCascade
