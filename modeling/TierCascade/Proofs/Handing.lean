import TierCascade.Proofs.Retries
import TierCascade.Sink.Recorder
/-!
# How aggregates are handed out

An aggregate goes to the store and then to the notifier, as far as it is due there, and each of them is tried
as often as the budget allows. To see which attempts are made, and in which order, the collaborators are given a
book (`Collaborator.booked`), which changes nothing else that they do. A dispatch writes into it what the scripts
of the two say (`Dispatch.Handing`, `Dispatch.Sending`), starting from whatever state the dispatches before it
have left behind (`Dispatch.sent_in_order`).
-/

namespace TierCascade

/-- What is written down of a call: an attempt begins, or it has ended well and is recorded. -/
inductive CallNote where
  | attempted (sink : Sink) (a : Aggregate)
  | recorded (sink : Sink) (a : Aggregate)
  deriving DecidableEq

def CallNote.ending (sink : Sink) (a : Aggregate) : Except SinkFault Unit → List CallNote
  | .ok () => [recorded sink a]
  | .error _ => []

variable {σ : Type}

/-- The same collaborators with a book. -/
def Collaborator.booked (c : Collaborator σ) : Collaborator (σ × List CallNote) := fun sink a =>
  { start := fun s => let (begun, plan) := (c sink a).start s.1
      ((begun, s.2 ++ [.attempted sink a]), plan)
    record := fun s => ((c sink a).record s.1, s.2 ++ [.recorded sink a]) }

/-- A view of what the collaborators have recorded: only the end of a good attempt adds to it. -/
structure Collaborator.Shows (c : Collaborator σ) (kept : Sink → σ → List Aggregate) : Prop where
  start : ∀ sink a s other, kept other ((c sink a).start s).1 = kept other s
  record : ∀ sink a s other,
    kept other ((c sink a).record s) = kept other s ++ if other = sink then [a] else []

theorem Recorder.shows : Recorder.collaborator.Shows fun sink r =>
    match sink with
    | .store => r.stored.reverse
    | .notifier => r.notified.reverse where
  start sink a r other := by cases other <;> rfl
  record sink a r other := by
    cases sink <;> cases other <;> simp [collaborator, Recorder.record]

namespace CallBudget

variable (b : CallBudget) (label : String) (callee : Callee σ) (s : σ)

/-! ### A call and its script -/

theorem add_tries (left made : Nat) : made + b.tries label callee left (b.make label callee made s)
    = (b.attempts label (.playing (b.scriptOf label callee s)) left made).1 := by
  induction left generalizing made with
  | zero =>
    rw [attempts, attempt_playing]
    rfl
  | succ left ih =>
    rw [attempts, attempt_playing, tries, attempt_make]
    cases b.judge label (b.scriptOf label callee s made) with
    | ok => rfl
    | error => exact (Nat.add_right_comm made _ 1).trans (ih (made + 1))

/-- A call makes the attempts of its script up to the first that succeeds, or all that the budget allows. -/
theorem call_script :
    (∃ n : Nat, b.firstSuccess label (b.scriptOf label callee s) = n ∧ n ≤ b.retries + 1 ∧
      b.call label callee s = (b.make label callee n s, .ok ()) ∧
      b.tries label callee b.retries s = n) ∨
    ∃ fault, b.retries + 1 < b.firstSuccess label (b.scriptOf label callee s) ∧
      b.judge label (b.scriptOf label callee s b.retries) = .error fault ∧
      b.call label callee s = (b.make label callee (b.retries + 1) s, .error fault) ∧
      b.tries label callee b.retries s = b.retries + 1 := by
  have tried : b.tries label callee b.retries s
      = (b.call label (.playing (b.scriptOf label callee s)) 0).1 :=
    (Nat.zero_add _).symm.trans (b.add_tries label callee s b.retries 0)
  rcases b.call_cases label (b.scriptOf label callee s) with
    ⟨first, within, place, called⟩ | ⟨beyond, fails, called⟩
  · refine .inl ⟨first + 1, place, Nat.succ_le_succ within, ?_, by rw [tried, called]⟩
    rw [b.call_eq_playing, called]
  · cases said : b.judge label (b.scriptOf label callee s b.retries) with
    | ok => exact absurd said fails
    | error fault =>
      refine .inr ⟨fault, by exact_mod_cast beyond, rfl, ?_, by rw [tried, called]⟩
      rw [b.call_eq_playing, called, said]

/-! ### A call and the book -/

section

variable (c : Collaborator σ) (sink : Sink) (a : Aggregate) (book : List CallNote)

theorem attempt_booked : b.attempt label (c.booked sink a) (s, book)
    = (((b.attempt label (c sink a) s).1,
        book ++ .attempted sink a :: CallNote.ending sink a (b.attempt label (c sink a) s).2),
      (b.attempt label (c sink a) s).2) := by
  simp only [attempt, Collaborator.booked]
  cases b.judge label ((c sink a).start s).2 with
  | ok => simp [CallNote.ending]
  | error => rfl

theorem attempts_booked (left : Nat) : b.attempts label (c.booked sink a) left (s, book)
    = (((b.attempts label (c sink a) left s).1,
        book ++ (List.replicate (b.tries label (c sink a) left s) (.attempted sink a)
          ++ CallNote.ending sink a (b.attempts label (c sink a) left s).2)),
      (b.attempts label (c sink a) left s).2) := by
  induction left generalizing s book with
  | zero => exact b.attempt_booked label s c sink a book
  | succ left ih =>
    rw [attempts, attempts, tries, attempt_booked]
    cases b.attempt label (c sink a) s with
    | mk reached result =>
      cases result with
      | ok => rfl
      | error fault =>
        refine (ih reached _).trans ?_
        rw [List.append_assoc]
        rfl

theorem attempts_kept {kept : Sink → σ → List Aggregate} (shows : c.Shows kept) (left : Nat) (other : Sink) :
    kept other (b.attempts label (c sink a) left s).1 = kept other s
      ++ if other = sink ∧ (b.attempts label (c sink a) left s).2 = .ok () then [a] else [] := by
  have once : ∀ s, kept other (b.attempt label (c sink a) s).1 = kept other s
      ++ if other = sink ∧ (b.attempt label (c sink a) s).2 = .ok () then [a] else [] := by
    intro s
    rw [attempt]
    cases begun : (c sink a).start s with
    | mk mid plan =>
      have same : kept other mid = kept other s := by rw [← shows.start sink a s other, begun]
      cases judged : b.judge label plan with
      | ok => simp [judged, shows.record, same]
      | error => simp [judged, same]
  induction left generalizing s with
  | zero => exact once s
  | succ left ih =>
    have first := once s
    rw [attempts]
    cases attempted : b.attempt label (c sink a) s with
    | mk reached result =>
      rw [attempted] at first
      cases result with
      | ok => exact first
      | error fault =>
        have same : kept other reached = kept other s := by simpa using first
        rw [← same]
        exact ih reached

end

end CallBudget

namespace Dispatch

variable (d : Dispatch) (c : Collaborator σ) (sink : Sink) (a : Aggregate) (s : σ)

/-! ### What a dispatch is to do -/

/-- How an aggregate is handed to one collaborator, as the script of that collaborator has it: what is written
down, what comes of it, and where the collaborators are left. -/
inductive Handing : List CallNote → Except SinkFault Bool → σ → Prop
  /-- It is not due there, and nothing is tried. -/
  | skipped (idle : d.due a sink = false) : Handing [] (.ok false) s
  /-- It is tried up to the first success, which lies within the budget. -/
  | taken {n : Nat} (due : d.due a sink = true)
      (first : d.budget.firstSuccess sink.label (d.budget.scriptOf sink.label (c sink a) s) = n)
      (within : n ≤ d.budget.retries + 1) :
      Handing (List.replicate n (.attempted sink a) ++ [.recorded sink a]) (.ok true)
        (d.budget.make sink.label (c sink a) n s)
  /-- The budget is spent without success, and the last fault counts. -/
  | refused {fault : SinkFault} (due : d.due a sink = true)
      (beyond : d.budget.retries + 1
        < d.budget.firstSuccess sink.label (d.budget.scriptOf sink.label (c sink a) s))
      (last : d.budget.judge sink.label (d.budget.scriptOf sink.label (c sink a) s d.budget.retries)
        = .error fault) :
      Handing (List.replicate (d.budget.retries + 1) (.attempted sink a)) (.error fault)
        (d.budget.make sink.label (c sink a) (d.budget.retries + 1) s)

/-- How an aggregate is handed to the store and then to the notifier. If the store refuses it, the notifier is
not asked. -/
inductive Sending : List CallNote → Except SinkFault Receipt → σ → Prop
  | unstored {notes : List CallNote} {fault : SinkFault} {after : σ}
      (store : d.Handing c .store a s notes (.error fault) after) : Sending notes (.error fault) after
  | stored {notes notes' : List CallNote} {stored : Bool} {result : Except SinkFault Bool} {mid after : σ}
      (store : d.Handing c .store a s notes (.ok stored) mid)
      (notifier : d.Handing c .notifier a mid notes' result after) :
      Sending (notes ++ notes') (result.map fun notified => ⟨stored, notified⟩) after

/-- Hands out some aggregates, one after the other, and says what came of each. -/
def sendAll : List Aggregate → σ → σ × List (Except SinkFault Receipt)
  | [], s => (s, [])
  | a :: as, s =>
    let (s, result) := d.send c a s
    let (s, results) := sendAll as s
    (s, result :: results)

theorem sendAll_concat (as : List Aggregate) : d.sendAll c (as ++ [a]) s
    = ((d.send c a (d.sendAll c as s).1).1, (d.sendAll c as s).2 ++ [(d.send c a (d.sendAll c as s).1).2]) := by
  induction as generalizing s with
  | nil => rfl
  | cons first as ih =>
    simp only [List.cons_append, sendAll]
    rw [ih]

/-! ### What it does -/

def handed : List CallNote :=
  if d.due a sink then
    List.replicate (d.budget.tries sink.label (c sink a) d.budget.retries s) (.attempted sink a)
      ++ CallNote.ending sink a (d.budget.call sink.label (c sink a) s).2
  else []

def notes : List CallNote :=
  d.handed c .store a s ++ match d.issue c .store a s with
    | (_, .error _) => []
    | (mid, .ok _) => d.handed c .notifier a mid

theorem handing_issue :
    d.Handing c sink a s (d.handed c sink a s) (d.issue c sink a s).2 (d.issue c sink a s).1 := by
  unfold handed issue
  cases due : d.due a sink with
  | false => exact .skipped due
  | true =>
    rcases d.budget.call_script sink.label (c sink a) s with
      ⟨n, first, within, called, tried⟩ | ⟨fault, beyond, last, called, tried⟩
    · rw [called, tried]
      exact .taken due first within
    · rw [called, tried]
      have notes : List.replicate (d.budget.retries + 1) (CallNote.attempted sink a)
          ++ CallNote.ending sink a (.error fault) = List.replicate (d.budget.retries + 1) (.attempted sink a) :=
        List.append_nil _
      rw [if_pos rfl, notes]
      exact .refused due beyond last

theorem sending_send : d.Sending c a s (d.notes c a s) (d.send c a s).2 (d.send c a s).1 := by
  have store := d.handing_issue c .store a s
  unfold notes send
  cases issued : d.issue c .store a s with
  | mk mid result =>
    rw [issued] at store
    cases result with
    | error fault =>
      rw [List.append_nil]
      exact .unstored store
    | ok stored => exact .stored store (d.handing_issue c .notifier a mid)

section

variable (book : List CallNote)

theorem issue_booked : d.issue c.booked sink a (s, book)
    = (((d.issue c sink a s).1, book ++ d.handed c sink a s), (d.issue c sink a s).2) := by
  unfold issue handed
  cases d.due a sink with
  | false => simp
  | true =>
    simp only [if_true, CallBudget.call]
    rw [d.budget.attempts_booked]

theorem send_booked : d.send c.booked a (s, book)
    = (((d.send c a s).1, book ++ d.notes c a s), (d.send c a s).2) := by
  unfold send notes
  rw [issue_booked]
  cases d.issue c .store a s with
  | mk mid result =>
    cases result with
    | error fault => simp
    | ok stored =>
      simp only
      rw [issue_booked, List.append_assoc]

/-- A book changes nothing of what the collaborators do. -/
theorem sendAll_booked (as : List Aggregate) : ∃ book', d.sendAll c.booked as (s, book)
    = (((d.sendAll c as s).1, book'), (d.sendAll c as s).2) := by
  induction as generalizing s book with
  | nil => exact ⟨book, rfl⟩
  | cons a as ih =>
    obtain ⟨book', rest⟩ := ih (d.send c a s).1 (book ++ d.notes c a s)
    refine ⟨book', ?_⟩
    simp only [sendAll]
    rw [send_booked, rest]

end

/-! ### What follows -/

variable {d c sink a s} {notes : List CallNote} {after : σ}

theorem Handing.count_recorded {result : Except SinkFault Bool} (handing : d.Handing c sink a s notes result after)
    (other : Sink) : notes.count (.recorded other a) = if other = sink ∧ result = .ok true then 1 else 0 := by
  cases handing with
  | skipped => simp
  | taken =>
    rw [List.count_append, List.count_replicate]
    by_cases same : other = sink
    · simp [same]
    · simp [same, Ne.symm same]
  | refused =>
    rw [List.count_replicate]
    simp

theorem Handing.eq_due {done : Bool} (handing : d.Handing c sink a s notes (.ok done) after) :
    done = d.due a sink := by
  cases handing with
  | skipped idle => exact idle.symm
  | taken due => exact due.symm

theorem Handing.ne_attempted {result : Except SinkFault Bool} (handing : d.Handing c sink a s notes result after)
    (other : Sink) (apart : other ≠ sink) : .attempted other a ∉ notes := by
  cases handing with
  | skipped => exact List.not_mem_nil
  | taken => simp [List.mem_replicate, apart]
  | refused => simp [List.mem_replicate, apart]

theorem Handing.recorded_mem {done : Bool} (handing : d.Handing c sink a s notes (.ok done) after)
    (due : d.due a sink = true) : .recorded sink a ∈ notes := by
  cases handing with
  | skipped idle => rw [due] at idle; cases idle
  | taken => exact List.mem_append_right _ List.mem_cons_self

/-- **Nothing is notified before it was stored.** -/
theorem Sending.stored_first {result : Except SinkFault Receipt} (sending : d.Sending c a s notes result after)
    (keeps : d.stored a.tier = true) {earlier later : List CallNote}
    (split : notes = earlier ++ .attempted .notifier a :: later) : .recorded .store a ∈ earlier := by
  cases sending with
  | unstored store =>
    refine absurd ?_ (store.ne_attempted .notifier nofun)
    exact split ▸ List.mem_append_right _ List.mem_cons_self
  | stored store notifier =>
    -- The attempt does not stand among the notes of the store, so those all stand before it.
    have mem := store.recorded_mem keeps
    rcases List.append_eq_append_iff.1 split with ⟨mid, front, -⟩ | ⟨mid, front, rear⟩
    · exact front ▸ List.mem_append_left _ mem
    · cases mid with
      | nil => rwa [front, List.append_nil] at mem
      | cons note mid =>
        obtain rfl : .attempted .notifier a = note := (List.cons.inj rear).1
        refine absurd ?_ (store.ne_attempted .notifier nofun)
        exact front ▸ List.mem_append_right _ List.mem_cons_self

/-- A dispatch that succeeds says where the aggregate was due, and has it recorded there once. -/
theorem Sending.receipt {receipt : Receipt} (sending : d.Sending c a s notes (.ok receipt) after) :
    receipt = ⟨d.stored a.tier, a.isAnomaly⟩ ∧
      ∀ sink, notes.count (.recorded sink a) = if d.due a sink then 1 else 0 := by
  generalize said : Except.ok receipt = result at sending
  cases sending with
  | unstored => cases said
  | @stored notes notes' stored result mid after store notifier =>
    cases result with
    | error fault => cases said
    | ok notified =>
      obtain rfl : receipt = ⟨stored, notified⟩ := Except.ok.inj said
      have one := store.eq_due
      have two := notifier.eq_due
      refine ⟨by rw [one, two]; rfl, fun sink => ?_⟩
      rw [List.count_append, store.count_recorded, notifier.count_recorded, one, two]
      cases sink <;> simp

/-! ### What the collaborators keep -/

variable {kept : Sink → σ → List Aggregate}

theorem issue_kept (shows : c.Shows kept) (d : Dispatch) (sink : Sink) (a : Aggregate) (s : σ) (other : Sink) :
    kept other (d.issue c sink a s).1 = kept other s
      ++ if other = sink ∧ (d.issue c sink a s).2 = .ok true then [a] else [] := by
  unfold issue
  cases d.due a sink with
  | false => simp
  | true =>
    have called := d.budget.attempts_kept sink.label s c sink a shows d.budget.retries other
    simp only [if_true]
    rw [CallBudget.call, called]
    cases (d.budget.attempts sink.label (c sink a) d.budget.retries s).2 <;> simp [Except.map]

theorem send_kept (shows : c.Shows kept) (d : Dispatch) (a : Aggregate) (s : σ) {receipt : Receipt}
    (succeeds : (d.send c a s).2 = .ok receipt) (sink : Sink) :
    kept sink (d.send c a s).1 = kept sink s ++ if d.due a sink then [a] else [] := by
  have one := d.handing_issue c .store a s
  have first := issue_kept shows d .store a s sink
  unfold send at succeeds ⊢
  cases issued : d.issue c .store a s with
  | mk mid result =>
    rw [issued] at one first succeeds
    cases result with
    | error fault => cases succeeds
    | ok stored =>
      have two := d.handing_issue c .notifier a mid
      have second := issue_kept shows d .notifier a mid sink
      simp only at succeeds ⊢
      rw [second, first]
      cases last : (d.issue c .notifier a mid).2 with
      | error fault =>
        rw [last] at succeeds
        cases succeeds
      | ok notified =>
        rw [last] at two
        rw [one.eq_due, two.eq_due]
        cases sink <;> simp

/-! ### Dispatch after dispatch -/

/-- **How aggregates are handed out.** After any number of dispatches, the next one tries the store, if the
tier is kept, up to its first success or to the end of the budget, and then, unless the store has refused it, the
notifier in the same way, if the aggregate is an anomaly. It succeeds if every collaborator where the aggregate
is due does, and otherwise says what the one that failed said last. So nothing of a kept tier is notified before
it was stored, and a dispatch that succeeds has the aggregate recorded just once wherever it is due. -/
theorem sent_in_order (d : Dispatch) (c : Collaborator σ) (s : σ) (as : List Aggregate) (a : Aggregate) :
    let before := d.sendAll c as s
    let sent := d.send c a before.1
    d.sendAll c (as ++ [a]) s = (sent.1, before.2 ++ [sent.2]) ∧
    ∃ book notes, d.sendAll c.booked as (s, []) = ((before.1, book), before.2) ∧
      d.sendAll c.booked (as ++ [a]) (s, []) = ((sent.1, book ++ notes), before.2 ++ [sent.2]) ∧
      d.Sending c a before.1 notes sent.2 sent.1 ∧
      (∀ earlier later, notes = earlier ++ .attempted .notifier a :: later → d.stored a.tier = true →
        .recorded .store a ∈ earlier) ∧
      ∀ receipt, sent.2 = .ok receipt → receipt = ⟨d.stored a.tier, a.isAnomaly⟩ ∧
        (∀ sink, notes.count (.recorded sink a) = if d.due a sink then 1 else 0) ∧
        ∀ kept, c.Shows kept → ∀ sink,
          kept sink sent.1 = kept sink before.1 ++ if d.due a sink then [a] else [] := by
  intro before sent
  obtain ⟨book, booked⟩ := d.sendAll_booked c s [] as
  have sending : d.Sending c a before.1 (d.notes c a before.1) sent.2 sent.1 := d.sending_send c a before.1
  refine ⟨d.sendAll_concat c a s as, book, d.notes c a before.1, booked, ?_, sending, ?_, ?_⟩
  · rw [sendAll_concat, booked, send_booked]
  · intro earlier later split keeps
    exact sending.stored_first keeps split
  · intro receipt succeeds
    rw [succeeds] at sending
    obtain ⟨due, once⟩ := sending.receipt
    exact ⟨due, once, fun kept shows sink => send_kept shows d a before.1 succeeds sink⟩

namespace Trial

def dispatch : Dispatch := ⟨(· == .hour), ⟨10, 1, 1⟩⟩

def hour : Aggregate :=
  { series := .plain "shop" "visits", tier := .hour, kind := .absolute, value := 1, mean := 1, deviation := 0
    difference := 0, min := 1, max := 1, isAnomaly := true, severity := .high, score := 4, count := 9
    timestamp := 0 }

/-- The store fails once. -/
def recorder : Recorder := .new [⟨some 1, .store, none, none, .fails (.persistence "busy")⟩]

end Trial

/-- The store is tried twice, and then the notifier once, and each of them has the aggregate once. -/
theorem sent_in_order_trial :
    (Trial.dispatch.sendAll Recorder.collaborator.booked [Trial.hour] (Trial.recorder, [])).1.2
        = [.attempted .store Trial.hour, .attempted .store Trial.hour, .recorded .store Trial.hour,
          .attempted .notifier Trial.hour, .recorded .notifier Trial.hour] ∧
      (Trial.dispatch.send Recorder.collaborator Trial.hour Trial.recorder).1.stored = [Trial.hour] := by
  obtain ⟨-, book, notes, none, sent, -, -, succeeds⟩ :=
    sent_in_order Trial.dispatch Recorder.collaborator Trial.recorder [] Trial.hour
  obtain ⟨-, -, keeps⟩ := succeeds ⟨true, true⟩ rfl
  have stored := congrArg List.reverse (keeps _ Recorder.shows .store)
  exact ⟨rfl, (List.reverse_reverse _).symm.trans stored⟩

end Dispatch

end TierCascade
