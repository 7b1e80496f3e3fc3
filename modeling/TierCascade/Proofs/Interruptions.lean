import TierCascade.Proofs.Passages
/-!
# Runs that are interrupted

`Afloat` is what is in order in a plant that nobody shuts down, through any number of runs, each of which
may be interrupted. A unit that waits to be delivered again when its run is interrupted counts as
acknowledged later on, though the loop leaves in flight what it does not settle: the delivery that is
thrown away lets go of its ticket, and nobody has said that it failed. `Plant.acked_handled` says how far
acknowledgements can be trusted.
-/

namespace TierCascade

/-! ### Plants that are not shut down -/

/-- All that is in order in a plant that is not shut down, after some samples came in. -/
structure Plant.Afloat {σ : Type} (s : Settings) (h : History) (xs : List Sample) (p : Plant σ) : Prop where
  orderly : p.Orderly s
  again : p.loop.Again
  traced : p.traffic.Traced s h
  inputs : h.inputs = xs

namespace Plant

variable {σ : Type} {s : Settings} {c : Collaborator σ} {h : History} {xs : List Sample} {p q : Plant σ}
  {a : Action}

theorem Afloat.books (afloat : p.Afloat s h xs) :
    ∃ m, Office.Books s.redelivery xs ⟨h.dealings, p.ledger, m⟩ := by
  obtain ⟨rs, history, ledger⟩ := afloat.traced.asked
  have books := Office.books s.redelivery .zero rs
  have inputs : xs = Ledger.Request.samples rs := by
    rw [← afloat.inputs, ← History.inputs_dealings, ← history, History.inputs_eq, books.firsts,
      samples_numbered]
  have here : (Office.after s.redelivery .zero rs).ledger = p.ledger := ledger
  rw [inputs, ← history, ← here]
  exact ⟨_, books⟩

theorem Afloat.again_of_settle (afloat : p.Afloat s h xs) (o : Outcome) :
    ∀ d ∈ (p.ledger.settle o).2.waits, d.isRedelivery = true := by
  intro d mem
  have settles := p.ledger.settles o
  generalize (p.ledger.settle o).1 = l at settles
  generalize (p.ledger.settle o).2 = st at settles mem
  cases settles with
  | @again i u t reason tracked =>
    obtain ⟨m, books⟩ := afloat.books
    rw [List.mem_singleton.1 mem]
    exact decide_eq_true (Nat.lt_succ_of_le (books.tracked tracked).2)
  | _ => cases mem

theorem Afloat.again_step (afloat : p.Afloat s h xs) (stays : a.closes = false)
    (move : p.step s c a = some q) : q.loop.Again := by
  have again := afloat.again
  rcases cases_of_step stays move with step | ⟨t, i, rfl, work⟩ | ⟨rfl, enter⟩
  · generalize p.deeds s c a = ds at step
    cases step with
    | settle _ settled =>
      obtain ⟨tickets, meter, journal, -, rfl, rfl⟩ := settle_eq_some settled
      rintro d (ready | ⟨run, waiting⟩)
      · exact again d (.inl ready)
      · rcases List.mem_append.1 waiting with old | new
        · exact again d (.inr ⟨run, old⟩)
        · obtain ⟨d', mem, same⟩ := List.mem_map.1 new
          cases same
          exact afloat.again_of_settle _ _ mem
    | @wake i run d waits =>
      rintro d' (ready | ⟨run', waiting⟩)
      · rcases List.mem_append.1 ready with old | woken
        · exact again d' (.inl old)
        · rw [List.mem_singleton.1 woken]
          exact again d (.inr ⟨run, List.mem_of_getElem? waits⟩)
      · exact again d' (.inr ⟨run', List.mem_of_mem_eraseIdx waiting⟩)
    | drop =>
      rintro d' (ready | ⟨run', waiting⟩)
      · exact again d' (.inl ready)
      · exact again d' (.inr ⟨run', List.mem_of_mem_eraseIdx waiting⟩)
    | @resubmit d rest _ first =>
      rintro d' (ready | waiting)
      · exact again d' (.inl (first ▸ List.mem_cons_of_mem d ready))
      · exact again d' (.inr waiting)
    | interrupt | finish => exact fun d later => again d (.inr (later.resolve_left List.not_mem_nil))
    | _ => exact again
  · rw [(work_frame work).loop]
    exact again
  · rw [(enter_frame enter).1]
    exact again

theorem afloat_of_launch {sinks : σ} {board : Board} {now : Int}
    (start : Plant.launch s sinks board now = .ok p) : p.Afloat s [] [] := by
  obtain ⟨orderly, -, traffic⟩ := sound_of_launch start
  obtain ⟨-, j, rfl⟩ := launch_eq_ok start
  have tails : (new s sinks board now).tails = 0 :=
    total_eq_zero fun here => by rw [eq_new_of_worker? here]; rfl
  refine ⟨orderly, ?_, ⟨fun k => .tended (traffic.stands k), ?_, rfl, nofun, [], rfl, rfl⟩, rfl⟩
  · rintro d (ready | ⟨run, waiting⟩)
    · cases ready
    · cases waiting
  · intro k holds
    exact absurd (tails ▸ holds) (Multiset.notMem_zero k)

/-- **A plant that is not shut down stays in order.** -/
theorem Afloat.step (afloat : p.Afloat s h xs) (stays : a.closes = false)
    (move : p.step s c a = some q) : q.Afloat s (h ++ p.deeds s c a) (xs ++ a.received.toList) where
  orderly := (afloat.orderly.step stays move).1
  again := afloat.again_step stays move
  traced := (passage_of_step afloat.orderly afloat.again stays move).traced afloat.traced
  inputs := by
    obtain ⟨m, books⟩ := afloat.books
    rw [History.inputs_append, afloat.inputs, inputs_deeds s c books]

/-- Through any number of runs, everything is in order as long as nobody shuts the plant down. -/
theorem afloat_of_follow {sinks : σ} {board : Board} {now : Int} {start : Plant σ} {as : List Action}
    (launched : Plant.launch s sinks board now = .ok start) (stays : ∀ a ∈ as, a.closes = false)
    (moves : Plant.follow s c as ([], start) = some (h, p)) :
    p.Afloat s h (as.filterMap Action.received) :=
  follow_keeps (P := fun h xs p => Plant.Afloat s h xs p) (fun stays move afloat => afloat.step stays move)
    stays moves (afloat_of_launch launched)

end Plant

/-! ### What an acknowledgement is worth -/

/-- The units that are counted as acknowledged. -/
def History.acked (h : History) : List Nat :=
  h.filterMap fun
    | .settled (.acked i) .acked => some i
    | _ => none

namespace History

variable (h g : History)

@[simp] theorem acked_append : (h ++ g).acked = h.acked ++ g.acked := List.filterMap_append

theorem acked_dealings : h.dealings.acked = h.acked := by
  rw [acked, acked, dealings, List.filterMap_filter]
  congr 1
  funext e
  cases e <;> rfl

variable {h}

theorem settlements_of_mem_acked {i : Nat} (mem : i ∈ h.acked) : .acked i ∈ h.settlements := by
  obtain ⟨e, there, shape⟩ := List.mem_filterMap.1 mem
  split at shape
  · cases shape
    exact List.mem_filterMap.2 ⟨_, there, rfl⟩
  · cases shape

theorem looks_within_eq_nil (none : h.looks = []) (t : Tier) : (h.within t).looks = [] := by
  refine List.eq_nil_iff_forall_not_mem.2 ?_
  rintro ⟨a, v⟩ seen
  obtain ⟨d, r, before, after, there⟩ := mem_looks.1 seen
  have mem : (a, v) ∈ h.looks := mem_looks.2 ⟨d, r, before, after, (mem_within.1 there).1⟩
  rw [none] at mem
  cases mem

end History

theorem Office.acked_eq (b : RedeliveryBudget) (m : Meter) (rs : List Ledger.Request) :
    (after b m rs).ledger.acked = (after b m rs).history.acked.length := by
  induction rs using List.reverseRecOn with
  | nil => rfl
  | append_singleton rs r ih =>
    rw [after_concat]
    cases r with
    | emit x =>
      refine ih.trans (congrArg List.length ?_)
      exact ((History.acked_append ..).trans (List.append_nil _)).symm
    | settle o =>
      refine of_settles (P := fun f => f.ledger.acked = f.history.acked.length) fun settles => ?_
      rw [History.acked_append, List.length_append, ← ih]
      cases settles with
      | unknown => cases o <;> rfl
      | _ => rfl

theorem Fate.unitId_eq {s : Settings} {start : Delivery} {h : History} {o : Outcome}
    (fate : Fate s start h o) : o.unitId = start.ticket.unitId := by
  cases fate <;> rfl

/-- The delivery of a ticket whose outcome was reported has the fate that the outcome tells, or its sample
was thrown away. -/
theorem Fares.reported {s : Settings} {k : Ticket} {h : History} {heads : Multiset (Delivery × Spot)}
    {n : Nat} {record : Option Held} (fares : Fares s k h heads n record) {o : Outcome}
    (said : .sent k o ∈ h) : ∃ d, h.deliveries = [d] ∧ d.ticket = k ∧ (Fate s d h o ∨
      d.isRedelivery = true ∧ o = .acked k.unitId ∧ h = [.issued d, .sent k o]) := by
  cases fares with
  | tended st =>
    rcases st.deliveries_cases with rfl | ⟨start, deliveries, ticket⟩
    · cases said
    · have issued : start ∈ h.deliveries := deliveries ▸ List.mem_cons_self
      have told : o ∈ h.outcomes := List.mem_map.2 ⟨(k, o), History.mem_sent.2 said, rfl⟩
      exact ⟨start, deliveries, ticket, .inl ((st.fate issued).2.2 o told)⟩
  | @abandoned start ticket again =>
    refine ⟨start, rfl, ticket, .inr ⟨again, ?_⟩⟩
    rcases List.mem_cons.1 said with first | second
    · cases first
    · cases List.mem_singleton.1 second
      exact ⟨rfl, rfl⟩

/-- **What an acknowledgement is worth.** Through any number of runs, each of which may be interrupted at
any point: a unit that is counted as acknowledged has a delivery that was handled without failure, to
its end; or it was to be delivered again after a failure, a run was interrupted, and what was thrown
away then had gone nowhere. -/
theorem Plant.acked_handled {σ : Type} {s : Settings} {c : Collaborator σ} {sinks : σ} {board : Board}
    {now : Int} {start : Plant σ} {as : List Action} {h : History} {p : Plant σ}
    (launched : Plant.launch s sinks board now = .ok start) (stays : ∀ a ∈ as, a.closes = false)
    (moves : Plant.follow s c as ([], start) = some (h, p)) :
    p.ledger.acked = h.acked.length ∧
      ∀ i ∈ h.acked, ∃ d ∈ h.deliveries, d.ticket.unitId = i ∧
        (Fate s d (h.of d.ticket) (.acked i) ∨
          Action.interrupt ∈ as ∧ d.isRedelivery = true ∧
            h.of d.ticket = [.issued d, .sent d.ticket (.acked i)]) := by
  have traced := (afloat_of_follow launched stays moves).traced
  refine ⟨?_, fun i acked => ?_⟩
  · obtain ⟨rs, history, ledger⟩ := traced.asked
    have counted := Office.acked_eq s.redelivery .zero rs
    rw [history, ledger, History.acked_dealings] at counted
    exact counted
  · -- The outcome was reported under some ticket.
    have told : .acked i ∈ h.outcomes := by
      rw [traced.channel]
      exact List.mem_append_left _ (History.settlements_of_mem_acked acked)
    obtain ⟨⟨k, o⟩, mem, rfl⟩ := List.mem_map.1 told
    have said : .sent k (.acked i) ∈ h.of k := History.mem_of.2 ⟨History.mem_sent.1 mem, rfl⟩
    by_cases interrupted : Action.interrupt ∈ as
    · obtain ⟨d, deliveries, rfl, fate⟩ := (traced.fares k).reported said
      have issued := (History.mem_deliveries_of.1 (deliveries ▸ List.mem_cons_self)).1
      rcases fate with handled | ⟨again, same, own⟩
      · exact ⟨d, issued, handled.unitId_eq.symm, .inl handled⟩
      · cases same
        exact ⟨d, issued, rfl, .inr ⟨interrupted, again, own⟩⟩
    · -- Nothing disturbed the run, so nothing was thrown away.
      have calm : ∀ a ∈ as, a.disturbs = false := by
        intro a mem
        cases a with
        | interrupt => exact absurd mem interrupted
        | shutdown => cases stays _ mem
        | _ => rfl
      have run : Run s c h p := Run.follow calm (.launch launched) moves
      have st := run.sound.traffic.stands k
      rcases st.deliveries_cases with none | ⟨d, deliveries, rfl⟩
      · rw [none] at said
        cases said
      · have own : d ∈ (h.of d.ticket).deliveries := deliveries ▸ List.mem_cons_self
        have sent : .acked i ∈ (h.of d.ticket).outcomes :=
          List.mem_map.2 ⟨(d.ticket, .acked i), History.mem_sent.2 said, rfl⟩
        have handled := (Standing.fate st own).2.2 _ sent
        exact ⟨d, (History.mem_deliveries_of.1 own).1, handled.unitId_eq.symm, .inl handled⟩

namespace Trial

def refusals : List Rule := [⟨some 1, .store, some .raw, none, .fails (.persistence "disk full")⟩]

/-- The only sample fails. While it waits to be delivered again the run is interrupted, and another one has
begun when it has waited long enough. -/
def interruption : List Action :=
  [.begin, .receive (sample 0), .enter, .work .raw 0, .work .raw 0, .settle, .interrupt, .begin, .wake 0,
    .settle]

theorem interruption_isSome : (reach settings refusals interruption).isSome = true := by
  decide +kernel

def abandoned : History := ((reach settings refusals interruption).get interruption_isSome).1

end Trial

/-- In a short run that is interrupted the only unit is acknowledged, and what was to be delivered again has
not gone anywhere. -/
theorem acked_handled_trial :
    Trial.abandoned.acked = [1] ∧ ∃ d ∈ Trial.abandoned.deliveries, d.ticket.unitId = 1 ∧
      (Fate Trial.settings d (Trial.abandoned.of d.ticket) (.acked 1) ∨
        Action.interrupt ∈ Trial.interruption ∧ d.isRedelivery = true ∧
          Trial.abandoned.of d.ticket = [.issued d, .sent d.ticket (.acked 1)]) := by
  have acked : Trial.abandoned.acked = [1] := by decide +kernel
  refine ⟨acked, ?_⟩
  exact (Plant.acked_handled (Trial.launch_eq (by decide +kernel) Trial.refusals) (by decide)
    (Trial.follow_of_reach Trial.interruption_isSome)).2 1 (acked ▸ List.mem_cons_self)

/-- It is not so that every unit that is counted as acknowledged has a delivery that was handled without
failure: of the only unit, the first delivery failed and the second was not handled at all. -/
theorem acked_unhandled :
    ¬ ∀ (as : List Action) (h : History) (p : Plant Recorder), (∀ a ∈ as, a.closes = false) →
      Plant.follow Trial.settings Recorder.collaborator as
        ([], Trial.start Trial.settings Trial.refusals) = some (h, p) →
      ∀ i ∈ h.acked, ∃ d ∈ h.deliveries, d.ticket.unitId = i ∧
        Fate Trial.settings d (h.of d.ticket) (.acked i) := by
  intro claim
  have acked : 1 ∈ Trial.abandoned.acked := by decide +kernel
  obtain ⟨d, issued, -, handled⟩ := claim _ _ _ (by decide)
    (Trial.follow_of_reach Trial.interruption_isSome) 1 acked
  have finite : ∀ d ∈ Trial.abandoned.deliveries, d.sample.value.isFinite = true := by decide +kernel
  have unseen : ∀ d ∈ Trial.abandoned.deliveries,
      (Trial.abandoned.of d.ticket).looks.isEmpty = true := by decide +kernel
  generalize ended : Outcome.acked 1 = o at handled
  cases handled with
  | refused infinite =>
    rw [finite d issued] at infinite
    cases infinite
  | kept _ _ _ _ _ stays =>
    -- No worker came as far as to look at a window.
    have none := History.looks_within_eq_nil (List.isEmpty_iff.1 (unseen d issued))
    cases (none _).symm.trans stays
  | broke => cases ended

end TierCascade
