import TierCascade.Plant.Schedule
/-!
# The line of stations

With a worker at every tier the line can be laid out, and then it is the chain of the tiers: at the
index of a tier stands its own station, whose workers hand on through the gate of the next tier
(`Settings.line_eq`). So a plant that was started has its workers behind their gates
(`Plant.launch_eq_ok`), and the gate that is found from outside is the one that the workers of the tier
before were given (`Settings.findGate_eq`).
-/

namespace TierCascade

namespace Settings

variable {s : Settings}

def gateOf (s : Settings) (t : Tier) : Gate := ⟨t, s.routing t, s.workersOf t⟩

def stationOf (s : Settings) (t : Tier) : Station := ⟨s.gateOf t, t.next.map s.gateOf⟩

theorem manned_of_check (h : s.check = .ok ()) (t : Tier) : 0 < s.workersOf t := by
  have none : s.idleTier? = none := by
    unfold check at h
    cases tuned : s.tuning.check with
    | error fault => simp [tuned, bind, Except.bind] at h
    | ok _ =>
      cases idle : s.idleTier? with
      | none => rfl
      | some t => simp [tuned, idle, bind, Except.bind, throw, throwThe, MonadExceptOf.throw] at h
  have busy := List.find?_eq_none.1 none t (Tier.mem_all t)
  simp only [beq_iff_eq] at busy
  omega

theorem lay_eq {t : Tier} (manned : 0 < s.workersOf t) (line : List Station) :
    s.lay line t = .ok (⟨s.gateOf t, line.head?.map (·.gate)⟩ :: line) := by
  rw [lay, Routing.make, if_neg (Nat.ne_of_gt manned)]
  rfl

/-- **The line is the chain of the tiers.** -/
theorem line_eq (manned : ∀ t, 0 < s.workersOf t) : s.line = .ok (Tier.all.map s.stationOf) := by
  have lays := fun t line => lay_eq (manned t) line
  simp only [line, Tier.all, List.reverse_cons, List.reverse_nil, List.nil_append, List.cons_append,
    List.foldlM_cons, List.foldlM_nil, lays, bind, Except.bind, pure, Except.pure]
  rfl

theorem getElem?_line (t : Tier) : (Tier.all.map s.stationOf)[t.index]? = some (s.stationOf t) := by
  cases t <;> rfl

theorem findGate_eq (manned : ∀ t, 0 < s.workersOf t) (t : Tier) : s.findGate t = .ok (s.gateOf t) := by
  simp only [findGate, line_eq manned, bind, Except.bind, getElem?_line]
  rfl

end Settings

namespace Plant

variable {σ : Type} {s : Settings} {sinks : σ} {board : Board} {now : Int} {p : Plant σ}

def new (s : Settings) (sinks : σ) (board : Board) (now : Int) : Plant σ :=
  opened s (.of fun t => List.replicate (s.workersOf t) (.new t s.tuning (t.next.map s.gateOf))) sinks
    board now

theorem get_pools_new (t : Tier) : (new s sinks board now).pools.get t
    = List.replicate (s.workersOf t) (.new t s.tuning (t.next.map s.gateOf)) :=
  PerTier.get_of _ t

theorem eq_new_of_worker? {t : Tier} {i : Nat} {w : Worker}
    (here : (new s sinks board now).worker? t i = some w) :
    w = .new t s.tuning (t.next.map s.gateOf) := by
  have inside := List.mem_of_getElem? here
  rw [get_pools_new] at inside
  exact List.eq_of_mem_replicate inside

theorem start_eq_ok (usable : s.check = .ok ()) : start s sinks board now = .ok (new s sinks board now) := by
  rw [start, usable, s.line_eq (s.manned_of_check usable)]
  rfl

/-- A plant that was started is as good as new. -/
theorem launch_eq_ok (h : launch s sinks board now = .ok p) :
    s.check = .ok () ∧ ∃ j, p = { new s sinks board now with journal := j } := by
  cases usable : s.check with
  | ok _ =>
    rw [launch, start_eq_ok usable] at h
    cases h
    exact ⟨rfl, _, rfl⟩
  | error fault =>
    rw [launch, start, usable] at h
    cases h

end Plant

end TierCascade
