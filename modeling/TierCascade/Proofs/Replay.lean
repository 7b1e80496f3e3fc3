import TierCascade.Proofs.Outcomes
/-!
# Redeliveries reach the tier that failed

A unit that failed somewhere is delivered again, and by then the windows of the finer tiers may long
start after its timestamp. `Run.replay_reaches` says that this does not keep it back: if the unit is
acknowledged in the end, the delivery that was acknowledged went through every tier up to the coarsest
one at which any delivery of the unit failed, and from there on the windows decide as they always do.
-/

namespace TierCascade

namespace Traffic.Sound

variable {s : Settings} {h : History} {T : Traffic} {k : Ticket} {o o' : Outcome} {d e : Delivery}
  {u : Nat} {g : Tier} {reason : String}

theorem ended_of_sent (sound : T.Sound s h) (said : .sent k o ∈ h) :
    ∃ d ∈ h.deliveries, ∃ mark h', d.ticket = k ∧ Ended s d mark h' ∧ o = k.outcome mark ∧
      h.of k = h' ++ [.sent k o] := by
  obtain ⟨-, d, mark, h', ended, ticket, outcome, here⟩ := (sound.stands k).reported_of_sent said
  have issued : d ∈ (h.of k).deliveries := by
    rw [here, History.deliveries_append, ended.deliveries_eq]
    exact List.mem_append_left _ List.mem_cons_self
  exact ⟨d, (History.mem_deliveries_of.1 issued).1, mark, h', ticket, ended, outcome, here⟩

theorem outcomes_eq_of_sent (sound : T.Sound s h) (said : .sent k o ∈ h) :
    (h.of k).outcomes = [o] := by
  obtain ⟨d, -, mark, h', -, ended, -, here⟩ := sound.ended_of_sent said
  rw [here, History.outcomes_append, ended.outcomes_eq_nil]
  rfl

theorem eq_of_sent (sound : T.Sound s h) (said : .sent k o ∈ h) (said' : .sent k o' ∈ h) : o = o' := by
  have one := sound.outcomes_eq_of_sent said
  rw [sound.outcomes_eq_of_sent said'] at one
  exact (List.cons.inj one).1.symm

theorem fate_of_sent (sound : T.Sound s h) (issued : d ∈ h.deliveries) (said : .sent d.ticket o ∈ h) :
    Fate s d (h.of d.ticket) o := by
  have here : d ∈ (h.of d.ticket).deliveries := History.mem_deliveries_of.2 ⟨issued, rfl⟩
  apply ((sound.stands d.ticket).fate here).2.2 o
  rw [sound.outcomes_eq_of_sent said]
  exact List.mem_cons_self

theorem unitId_of_failed (sound : T.Sound s h) (said : .sent k (.failed u g reason) ∈ h) :
    k.unitId = u := by
  obtain ⟨-, -, mark, -, -, -, outcome, -⟩ := sound.ended_of_sent said
  cases mark with
  | none => cases outcome
  | some m => exact congrArg Outcome.unitId outcome.symm

/-- No delivery of a unit follows one that was acknowledged, and those before it failed. -/
theorem earlier_of_acked (sound : T.Sound s h) (issued : d ∈ h.deliveries)
    (acked : .sent d.ticket (.acked u) ∈ h) (other : e ∈ h.deliveries)
    (same : e.ticket.unitId = d.ticket.unitId) :
    e = d ∨ (e.ticket.attempt < d.ticket.attempt ∧
      ∃ g reason, .sent e.ticket (.failed d.ticket.unitId g reason) ∈ h) := by
  have first := (sound.accounts.warranted e other).attempt
  rcases lt_trichotomy e.ticket.attempt d.ticket.attempt with before | now | after
  · obtain ⟨e', -, ticket, -, g, reason, -, said, -, -⟩ :=
      (sound.accounts.warranted d issued).earlier e.ticket.attempt first before
    have named : e'.ticket = e.ticket := by rw [ticket, ← same]
    exact .inr ⟨before, g, reason, named ▸ said⟩
  · have ticket : e.ticket = d.ticket := by
      cases h₁ : e.ticket
      cases h₂ : d.ticket
      rw [h₁, h₂] at same now
      simp only at same now
      rw [same, now]
    exact .inl ((sound.stands d.ticket).eq_of_ticket other issued ticket rfl)
  · have begun := (sound.accounts.warranted d issued).attempt
    obtain ⟨d', -, ticket, -, g, reason, -, said, -, -⟩ :=
      (sound.accounts.warranted e other).earlier d.ticket.attempt begun after
    have named : d'.ticket = d.ticket := by rw [ticket, same]
    rw [named] at said
    cases sound.eq_of_sent acked said

/-- A delivery that was acknowledged had to reach every tier at which one of its unit failed, and its
sample is a number. -/
theorem target_of_failed (sound : T.Sound s h) (issued : d ∈ h.deliveries)
    (acked : .sent d.ticket (.acked u) ∈ h) (failed : .sent k (.failed d.ticket.unitId g reason) ∈ h) :
    d.sample.value.isFinite = true ∧ ∃ target, d.replay = some target ∧ g ≤ target := by
  have unit := sound.unitId_of_failed failed
  obtain ⟨e, other, -, -, ticket, -, -, -⟩ := sound.ended_of_sent failed
  subst ticket
  rcases sound.earlier_of_acked issued acked other unit with rfl | ⟨before, -⟩
  · cases sound.eq_of_sent acked failed
  · obtain ⟨e', there, ticket, sample, g', reason', target, said, needed, finer⟩ :=
      (sound.accounts.warranted d issued).earlier e.ticket.attempt
        (sound.accounts.warranted e other).attempt before
    have named : e'.ticket = e.ticket := by rw [ticket, ← unit]
    have same : e' = e := (sound.stands e.ticket).eq_of_ticket there other named rfl
    subst same
    obtain ⟨-, rfl, -⟩ := Outcome.failed.inj (sound.eq_of_sent failed said)
    refine ⟨?_, target, needed, finer⟩
    rw [← sample]
    exact (sound.fate_of_sent other failed).finite_of_failed

theorem worked (sound : T.Sound s h) (issued : d ∈ h.deliveries) {t : Tier} {act : Act}
    {before after : Option SeriesState} (mem : .worked e t act before after ∈ h.of d.ticket) :
    (Deed.worked e t act before after).Lawful ∧ e.Like d := by
  obtain ⟨there, ticket⟩ := History.mem_of.1 mem
  obtain ⟨lawful, d', issued', like⟩ := Traffic.Stands.worked sound.stands there
  have named : d'.ticket = d.ticket := like.ticket.symm.trans (Option.some.inj ticket)
  rw [(sound.stands d.ticket).eq_of_ticket issued' issued named rfl] at like
  exact ⟨lawful, like⟩

theorem target_le_of_kept (sound : T.Sound s h) (issued : d ∈ h.deliveries) {t target : Tier}
    {a : Aggregate} {before after : Option SeriesState}
    (mem : .worked e t (.looked a .kept) before after ∈ h.of d.ticket)
    (needed : d.replay = some target) : target ≤ t := by
  obtain ⟨⟨-, old, new, -, -, rule⟩, like⟩ := sound.worked issued mem
  by_contra beyond
  -- Were it kept short of that tier, the window would have had no say.
  have forced : Stage.replays t e.replay = true :=
    Stage.replays_iff.2 ⟨target, like.replay.trans needed, not_le.1 beyond⟩
  cases rule with
  | last final => exact beyond (Tier.le_of_next_eq_none final target)
  | kept _ free =>
    rw [forced] at free
    cases free

/-- What had to reach a tier and was acknowledged was served there, and at every tier before. -/
theorem served_of_acked (sound : T.Sound s h) (issued : d ∈ h.deliveries)
    (acked : .sent d.ticket (.acked u) ∈ h) (finite : d.sample.value.isFinite = true) {target : Tier}
    (needed : d.replay = some target) {r : Tier} (finer : r ≤ target) :
    (h.of d.ticket).Served s d r := by
  have unit : u = d.ticket.unitId := by
    cases sound.fate_of_sent issued acked <;> rfl
  subst unit
  cases sound.fate_of_sent issued acked with
  | refused infinite =>
    rw [finite] at infinite
    cases infinite
  | @kept t a _ _ _ passed served stays =>
    have seen : (a, Verdict.kept) ∈ ((h.of d.ticket).within t).looks :=
      stays ▸ List.mem_singleton_self _
    obtain ⟨e, r', before, after, there⟩ := History.mem_looks.1 seen
    obtain ⟨mem, tier⟩ := History.mem_within.1 there
    cases tier
    have far : target ≤ t := sound.target_le_of_kept issued mem needed
    rcases lt_or_eq_of_le (le_trans finer far) with before | rfl
    · exact (passed r before).1
    · exact served

end Traffic.Sound

/-- **Redeliveries reach the tier that failed.** If a unit is settled as acknowledged, one delivery of
it was acknowledged, and all others were made before and failed. The one that was acknowledged was
served at every tier up to each tier at which any of them failed, whatever has become of the windows
there in the meantime; and at every tier that is no finer than all those that failed, it moved on
exactly if a whole period had passed since the anchor, as far as the difference of two words tells. -/
theorem Run.replay_reaches {σ : Type} {s : Settings} {c : Collaborator σ} {h : History} {p : Plant σ}
    (run : Run s c h p) {u : Nat} (resolved : .acked u ∈ h.settlements) :
    ∃ d ∈ h.deliveries, d.ticket.unitId = u ∧ (h.of d.ticket).outcomes = [.acked u] ∧
      Fate s d (h.of d.ticket) (.acked u) ∧
      (∀ e ∈ h.deliveries, e.ticket.unitId = u → e = d ∨ (e.ticket.attempt < d.ticket.attempt ∧
        ∃ g reason, (h.of e.ticket).outcomes = [.failed u g reason])) ∧
      (∀ {k g reason}, .sent k (.failed u g reason) ∈ h →
        ∀ r ≤ g, (h.of d.ticket).Served s d r) ∧
      ∀ {e t a v before after}, .worked e t (.looked a v) before after ∈ h.of d.ticket →
        (∀ {k g reason}, .sent k (.failed u g reason) ∈ h → g ≤ t) →
        ∃ old, before = some old ∧
          (v ≠ .kept ↔ t.next.isSome = true ∧ t.period ≤ old.elapsed d.sample.timestamp) := by
  have sound := run.sound.traffic
  have reported : .acked u ∈ h.outcomes := by
    rw [sound.accounts.channel]
    exact List.mem_append_left _ resolved
  obtain ⟨⟨k, o⟩, said, rfl⟩ := List.mem_map.1 reported
  have acked := History.mem_sent.1 said
  obtain ⟨d, issued, mark, h', rfl, -, outcome, -⟩ := sound.ended_of_sent acked
  have unit : u = d.ticket.unitId := by
    cases mark with
    | none => exact congrArg Outcome.unitId outcome
    | some m => cases outcome
  subst unit
  refine ⟨d, issued, rfl, sound.outcomes_eq_of_sent acked, sound.fate_of_sent issued acked, ?_, ?_, ?_⟩
  · intro e other same
    rcases sound.earlier_of_acked issued acked other same with now | ⟨before, g, reason, failed⟩
    · exact .inl now
    · exact .inr ⟨before, g, reason, sound.outcomes_eq_of_sent failed⟩
  · intro k g reason failed r finer
    obtain ⟨finite, target, needed, far⟩ := sound.target_of_failed issued acked failed
    exact sound.served_of_acked issued acked finite needed (le_trans finer far)
  · intro e t a v before after mem beyond
    obtain ⟨⟨made, old, new, known, -, rule⟩, like⟩ := sound.worked issued mem
    -- A delivery only has to reach a tier at which one of its unit failed.
    have free : Stage.replays t e.replay = false := by
      by_contra forced
      obtain ⟨target, needed, farther⟩ := Stage.replays_iff.1 (Bool.not_eq_false _ ▸ forced)
      obtain ⟨e', -, same, -, reason, failed⟩ :=
        (sound.accounts.warranted d issued).target (like.replay.symm.trans needed)
      rw [same] at failed
      exact absurd (beyond failed) (not_le.2 farther)
    refine ⟨old, known, ?_⟩
    rw [rule.moves_iff free, made.2.2.1, like.timestamp]

/-- In the short run the first delivery of the second unit fails at the second tier, and the second one
is served at the first two tiers. -/
theorem replay_reaches_trial :
    .acked 2 ∈ Trial.history.settlements ∧
      (⟨2, 1⟩, .failed 2 .minute "persistence failed: disk full") ∈ Trial.history.sent ∧
      ∃ d ∈ Trial.history.deliveries, d.ticket.unitId = 2 ∧
        (Trial.history.of d.ticket).outcomes = [.acked 2] ∧
        ∀ r ≤ Tier.minute, (Trial.history.of d.ticket).Served Trial.settings d r := by
  have resolved : .acked 2 ∈ Trial.history.settlements := by decide +kernel
  have failed : (⟨2, 1⟩, .failed 2 .minute "persistence failed: disk full") ∈ Trial.history.sent := by
    decide +kernel
  obtain ⟨d, issued, unit, outcome, -, -, served, -⟩ := Run.replay_reaches Trial.run resolved
  exact ⟨resolved, failed, d, issued, unit, outcome, served (History.mem_sent.1 failed)⟩

end TierCascade
