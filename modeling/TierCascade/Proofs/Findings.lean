import TierCascade.Intake
import TierCascade.Proofs.Arithmetic
import TierCascade.Proofs.Decoding
/-!
# What decoders give

Whatever a text says, what a decoder gives has the properties that the decoder sees to (`Decoder.Gives`). A
record has those of its fields, whether it is read from an object or from an array
(`Decoder.gives_record`). All doubles that are given are finite, and so are the values of all samples in lines
(`Reading.isFinite_of_mem_samples`).
-/

namespace TierCascade

/-- All that a decoder gives has a property. -/
def Decoder.Gives {α : Type} (decode : Decoder α) (p : α → Prop) : Prop := ∀ s a, decode s = .ok a → p a

/-! ### Records -/

/-- The fields of a record give values with a property if each of them does, also where it is not there. -/
inductive Fields.Gives : {σ β : Type} → Fields σ β → (σ → Prop) → (β → Prop) → Prop
  | nil : Gives .nil (fun _ => True) fun _ => True
  | cons {α σ β : Type} {name : String} {decode : Decoder α} {absence : Absence α} {rest : Fields σ β} {p : α → Prop}
      {slotted : σ → Prop} {whole : β → Prop} (read : decode.Gives p) (stands : ∀ a ∈ absence.value?, p a)
      (others : Gives rest slotted whole) :
      Gives (.cons name decode absence rest) (fun slots => (∀ a ∈ slots.1, p a) ∧ slotted slots.2)
        fun b => p b.1 ∧ whole b.2

namespace Fields

variable {σ β : Type} {fields : Fields σ β} {slotted : σ → Prop} {whole : β → Prop}

theorem Gives.start (gives : fields.Gives slotted whole) : slotted fields.start := by
  induction gives with
  | nil => trivial
  | cons _ _ _ ih => exact ⟨nofun, ih⟩

theorem Gives.fill? (gives : fields.Gives slotted whole) {name value : Scan} {title : String} {slots slots' : σ}
    (before : slotted slots) (filled : fields.fill? name value title slots = some (.ok slots')) : slotted slots' := by
  induction gives with
  | nil => trivial
  | @cons α σ β field decode absence rest p slotted whole read stands others ih =>
    obtain ⟨slot, slots⟩ := slots
    simp only [Fields.fill?] at filled
    split at filled
    · cases slot with
      | some _ => cases filled
      | none =>
        cases given : decode value with
        | error => simp [given, Except.map] at filled
        | ok a =>
          simp only [given, Except.map, Option.some.injEq, Except.ok.injEq] at filled
          subst filled
          refine ⟨?_, before.2⟩
          rintro _ ⟨⟩
          exact read value a given
    · cases later : rest.fill? name value title slots with
      | none => simp [later] at filled
      | some result =>
        cases result with
        | error => simp [later, Except.map] at filled
        | ok after =>
          simp only [later, Option.map_some, Except.map, Option.some.injEq, Except.ok.injEq] at filled
          subst filled
          exact ⟨before.1, ih before.2 later⟩

theorem Gives.readMembers (gives : fields.Gives slotted whole) {ms : List (Scan × Scan)} {slots slots' : σ}
    (before : slotted slots) (read : fields.readMembers ms slots = .ok slots') : slotted slots' := by
  induction ms generalizing slots with
  | nil =>
    cases read
    exact before
  | cons m ms ih =>
    obtain ⟨name, value⟩ := m
    simp only [Fields.readMembers, bind, Except.bind] at read
    split at read
    · cases read
    · split at read
      · rename_i result filled
        cases result with
        | error => cases read
        | ok after => exact ih (gives.fill? before filled) read
      · split at read
        · cases read
        · exact ih before read

theorem Gives.finish (gives : fields.Gives slotted whole) {slots : σ} {b : β} (before : slotted slots)
    (finished : fields.finish slots = .ok b) : whole b := by
  induction gives with
  | nil => trivial
  | @cons α σ β field decode absence rest p slotted whole read stands others ih =>
    obtain ⟨slot, slots⟩ := slots
    have chosen : ∀ {a : α}, p a → ((rest.finish slots).map fun b => (a, b)) = .ok b → p b.1 ∧ whole b.2 := by
      intro a good all
      cases later : rest.finish slots with
      | error => simp [later, Except.map] at all
      | ok b' =>
        simp only [later, Except.map, Except.ok.injEq] at all
        subst all
        exact ⟨good, ih before.2 later⟩
    cases slot with
    | some a => exact chosen (before.1 a rfl) finished
    | none =>
      cases absence with
      | required => cases finished
      | optional a | default a => exact chosen (stands a rfl) finished

theorem Gives.readItems (gives : fields.Gives slotted whole) {node : Scan} {expected : String} {index : ℕ}
    {items : List Scan} {b : β} (read : fields.readItems node expected index items = .ok b) : whole b := by
  induction gives generalizing index items with
  | nil => trivial
  | @cons α σ β field decode absence rest p slotted whole given stands others ih =>
    cases items with
    | cons item items =>
      simp only [Fields.readItems, bind, Except.bind] at read
      split at read
      · cases read
      · rename_i a first
        split at read
        · cases read
        · rename_i later
          cases read
          exact ⟨given item a first, ih later⟩
    | nil =>
      simp only [Fields.readItems, bind, Except.bind] at read
      split at read
      · cases read
      · split at read
        · split at read
          · cases read
          · rename_i later
            cases read
            exact ⟨stands _ rfl, ih later⟩
        · cases read

end Fields

namespace Decoder

theorem gives_record {σ β γ : Type} {fields : Fields σ β} {slotted : σ → Prop} {whole : β → Prop} {p : γ → Prop}
    (title : String) {build : β → γ} (gives : fields.Gives slotted whole) (kept : ∀ b, whole b → p (build b)) :
    (record title fields build).Gives p := by
  intro s c read
  unfold record at read
  split at read
  · simp only [bind, Except.bind] at read
    split at read
    · cases read
    · rename_i slots filled
      split at read
      · cases read
      · split at read
        · rename_i b finished
          cases read
          exact kept b (gives.finish (gives.readMembers gives.start filled) finished)
        · cases read
  · simp only [bind, Except.bind] at read
    split at read
    · cases read
    · rename_i b items
      cases read
      exact kept b (gives.readItems items)
  · cases read

end Decoder

theorem exists_scan_of_decodeText {α : Type} {decode : Decoder α} {cs : List Char} {a : α}
    (read : decodeText decode cs = .ok a) : ∃ s, decode s = .ok a := by
  simp only [decodeText, bind, Except.bind] at read
  split at read
  · cases read
  · rename_i given
    split at read
    · cases read
      exact ⟨_, given⟩
    · cases read

/-! ### Doubles -/

namespace Doubles

theorem isFinite_neg {x : Float} (finite : x.isFinite = true) : (-x).isFinite = true := by
  obtain ⟨canonical, value⟩ := (canonical_of_finite finite).neg
  have grid : Grid (valueOf x.toModel.unpack.neg) := canonical.grid
  have small : |valueOf x.toModel.unpack.neg| < 2 ^ 1024 := by
    rw [value, abs_neg]
    exact abs_value_lt finite
  exact (canonical.settled.rounded.exact grid small).1

end Doubles

theorem Numeral.isFinite_of_toFloat? {n : Numeral} {x : Float} (read : n.toFloat? = some x) : x.isFinite = true := by
  have signed : ∀ {y : Float}, y.isFinite = true → (if n.negative then -y else y).isFinite = true := by
    intro y finite
    split
    · exact Doubles.isFinite_neg finite
    · exact finite
  simp only [toFloat?] at read
  split at read
  · cases read
    exact signed rfl
  · split at read
    · cases read
    · split at read
      · rename_i finite
        cases read
        exact signed finite
      · cases read

theorem Decoder.gives_float : float.Gives fun x => x.isFinite = true := by
  intro s x read
  unfold float at read
  split at read
  · rename_i n f _
    unfold Scan.useNumber at read
    split at read
    · cases read
    · split at read
      · rename_i number
        cases read
        exact Numeral.isFinite_of_toFloat? number
      · cases read
  · cases read

/-! ### Samples -/

/-- A sample that is read has a finite value. -/
theorem FlatSample.gives : FlatSample.decoder.Gives fun x => x.value.isFinite = true := by
  have any : ∀ {α : Type} (decode : Decoder α), decode.Gives fun _ => True := fun _ _ _ _ => trivial
  have anyhow : ∀ {α : Type} (o : Option α), ∀ a ∈ o, True := fun _ _ _ => trivial
  exact Decoder.gives_record _
    (.cons (any _) (anyhow _) <| .cons (any _) (anyhow _) <| .cons (any _) (anyhow _) <|
      .cons (any _) (anyhow _) <| .cons Decoder.gives_float nofun <| .cons (any _) (anyhow _) <|
      .cons (any _) (anyhow _) .nil)
    fun b read => read.2.2.2.2.1

theorem Reading.isFinite_of_mem_samples {lines : List (List Char)} {x : Sample}
    (mem : x ∈ Reading.samples (lines.map Reading.ofLine)) : x.value.isFinite = true := by
  obtain ⟨r, said, same⟩ := List.mem_filterMap.1 mem
  obtain ⟨line, -, rfl⟩ := List.mem_map.1 said
  unfold Reading.ofLine at same
  split at same
  · rename_i y shape
    cases same
    split at shape
    · cases shape
    · split at shape
      · rename_i flat read
        cases shape
        obtain ⟨s, given⟩ := exists_scan_of_decodeText read
        exact FlatSample.gives s flat given
      · cases shape
  · cases same

end TierCascade
