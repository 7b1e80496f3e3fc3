import TierCascade.Proofs.Traffic
/-!
# Who holds a ticket

A ticket has as many holders as its record says: the one sample of the delivery that goes on its way,
if there is one, and every worker that has stayed behind (`Standing`). So the record is given up
exactly when the sample is at its end and everyone has let go, and the outcome that is reported then
is the mark of that end. No order of steps gets around this (`Traffic.Step.stands`).
-/

namespace TierCascade

/-- How a ticket stands, given what happened to its delivery, the samples of it on their way, the
number of workers that have stayed behind, and its record. -/
inductive Standing (s : Settings) (k : Ticket) :
    History → Multiset (Delivery × Spot) → Nat → Option Held → Prop where
  | absent : Standing s k [] 0 0 none
  | live {start d : Delivery} {spot : Spot} {h : History} {n : Nat}
      (course : Course s start d spot h) (ticket : start.ticket = k) :
      Standing s k h {(d, spot)} n (some ⟨k, n + 1, none⟩)
  | ended {start : Delivery} {mark : Option Mark} {h : History} {n : Nat}
      (ended : Ended s start mark h) (ticket : start.ticket = k) :
      Standing s k h 0 (n + 1) (some ⟨k, n + 1, mark⟩)
  | reported {start : Delivery} {mark : Option Mark} {h : History}
      (ended : Ended s start mark h) (ticket : start.ticket = k) :
      Standing s k (h ++ [.sent k (k.outcome mark)]) 0 0 none

def Traffic.headsOf (heads : Multiset (Delivery × Spot)) (k : Ticket) : Multiset (Delivery × Spot) :=
  heads.filter fun x => x.1.ticket = k

/-- How a ticket stands in some traffic. -/
def Traffic.Stands (s : Settings) (h : History) (T : Traffic) (k : Ticket) : Prop :=
  Standing s k (h.of k) (headsOf T.heads k) (T.tails.count k) (T.tickets.find? k)

/-! ### What concerns a ticket -/

namespace History

variable {h : History} {k : Ticket}

theorem of_eq_self (all : ∀ e ∈ h, e.ticket? = some k) : h.of k = h :=
  List.filter_eq_self.2 fun e mem => decide_eq_true (all e mem)

theorem of_eq_nil (none : ∀ e ∈ h, e.ticket? ≠ some k) : h.of k = [] :=
  List.filter_eq_nil_iff.2 fun e mem => by simpa using none e mem

theorem of_eq_nil_of_ne {j : Ticket} (all : ∀ e ∈ h, e.ticket? = some j) (other : k ≠ j) :
    h.of k = [] := by
  apply of_eq_nil
  intro e mem
  rw [all e mem]
  exact fun same => other (Option.some.inj same).symm

end History

theorem Course.ne_nil {s : Settings} {start d : Delivery} {spot : Spot} {h : History}
    (course : Course s start d spot h) : h ≠ [] := by
  rintro rfl
  cases course.deliveries_eq

theorem Ended.ne_nil {s : Settings} {start : Delivery} {mark : Option Mark} {h : History}
    (ended : Ended s start mark h) : h ≠ [] := by
  rintro rfl
  cases ended.deliveries_eq

namespace Tickets

variable {ts : Tickets} {k j : Ticket}

theorem ticket_of_mem_farewells {e : Deed} (mem : e ∈ ts.farewells k) : e.ticket? = some k := by
  obtain ⟨o, -, rfl⟩ := List.mem_map.1 mem
  rfl

@[simp] theorem find?_marked_of_ne (mark : Option Mark) (h : j ≠ k) :
    (ts.marked k mark).find? j = ts.find? j := by
  cases mark with
  | none => rfl
  | some m => exact find?_fail_of_ne ts _ _ h

theorem find?_marked {n : Nat} (mark : Option Mark) (found : ts.find? k = some ⟨k, n, none⟩) :
    (ts.marked k mark).find? k = some ⟨k, n, mark⟩ := by
  cases mark with
  | none => exact found
  | some m =>
    rw [marked, find?_fail_self, found]
    rfl

theorem release_cases {n : Nat} {mark : Option Mark} (found : ts.find? k = some ⟨k, n + 1, mark⟩) :
    (n = 0 ∧ (ts.release k).find? k = none ∧ ts.farewells k = [.sent k (k.outcome mark)]) ∨
      (0 < n ∧ (ts.release k).find? k = some ⟨k, n, mark⟩ ∧ ts.farewells k = []) := by
  cases n with
  | zero =>
    refine .inl ⟨rfl, find?_release_of_last ts found (Nat.le_refl 1), ?_⟩
    rw [farewells, farewell, found]
    cases mark <;> rfl
  | succ n =>
    have shared : 1 < n + 1 + 1 := by omega
    refine .inr ⟨Nat.succ_pos n, find?_release_of_shared ts found shared, ?_⟩
    have more : ¬ n + 1 + 1 ≤ 1 := by omega
    simp [farewells, farewell, found, more]

end Tickets

namespace Standing

variable {s : Settings} {k : Ticket} {h : History} {heads rest : Multiset (Delivery × Spot)} {n : Nat}
  {record : Option Held} {d : Delivery} {spot : Spot}

theorem absent_of_nil (st : Standing s k [] heads n record) :
    heads = 0 ∧ n = 0 ∧ record = none := by
  generalize none : ([] : History) = h at st
  cases st with
  | absent => exact ⟨rfl, rfl, rfl⟩
  | live course => exact absurd none.symm course.ne_nil
  | ended ended => exact absurd none.symm ended.ne_nil
  | reported ended => exact absurd none.symm (List.append_ne_nil_of_left_ne_nil ended.ne_nil _)

/-- A sample that is on its way is the only one of its delivery. -/
theorem live_of_head (st : Standing s k h ({(d, spot)} + rest) n record) :
    rest = 0 ∧ record = some ⟨k, n + 1, none⟩ ∧
      ∃ start, Course s start d spot h ∧ start.ticket = k := by
  generalize found : {(d, spot)} + rest = heads at st
  rw [Multiset.singleton_add] at found
  cases st with
  | absent => exact absurd found (Multiset.cons_ne_zero)
  | ended => exact absurd found (Multiset.cons_ne_zero)
  | reported => exact absurd found (Multiset.cons_ne_zero)
  | live course ticket =>
    obtain ⟨same, alone⟩ := (Multiset.singleton_eq_cons_iff _).1 found.symm
    cases same
    exact ⟨alone, rfl, _, course, ticket⟩

theorem release_of_ended {start : Delivery} {mark : Option Mark} {ts : Tickets}
    (ended : Ended s start mark h) (ticket : start.ticket = k)
    (found : ts.find? k = some ⟨k, n + 1, mark⟩) :
    Standing s k (h ++ ts.farewells k) 0 n ((ts.release k).find? k) := by
  rcases Tickets.release_cases found with ⟨rfl, gone, said⟩ | ⟨more, left, quiet⟩
  · rw [gone, said]
    exact .reported ended ticket
  · obtain ⟨m, rfl⟩ := Nat.exists_eq_add_of_lt more
    rw [left, quiet, List.append_nil, zero_add]
    exact .ended ended ticket

theorem part {ts : Tickets} (st : Standing s k h heads (n + 1) (ts.find? k)) :
    Standing s k (h ++ ts.farewells k) heads n ((ts.release k).find? k) := by
  generalize count : n + 1 = m at st
  generalize found : ts.find? k = record at st
  cases st with
  | absent => cases count
  | reported => cases count
  | live course ticket =>
    subst count
    rcases Tickets.release_cases found with ⟨none, -, -⟩ | ⟨-, left, quiet⟩
    · cases none
    · rw [left, quiet, List.append_nil]
      exact .live course ticket
  | ended ended ticket =>
    cases count
    exact release_of_ended ended ticket found

end Standing

/-! ### One step -/

namespace Traffic

variable {s : Settings} {h ds : History} {T T' : Traffic} {k : Ticket} {d : Delivery} {spot : Spot}
  {heads : Multiset (Delivery × Spot)} {tails : Multiset Ticket} {ts : Tickets} {l : Ledger}

theorem headsOf_add_self (same : d.ticket = k) :
    headsOf ({(d, spot)} + heads) k = {(d, spot)} + headsOf heads k := by
  rw [headsOf, Multiset.filter_add, Multiset.filter_singleton, if_pos same]
  rfl

theorem headsOf_add_of_ne (other : d.ticket ≠ k) :
    headsOf ({(d, spot)} + heads) k = headsOf heads k := by
  rw [headsOf, Multiset.filter_add, Multiset.filter_singleton, if_neg other]
  exact zero_add _

theorem count_add_self (k : Ticket) (tails : Multiset Ticket) :
    ({k} + tails).count k = tails.count k + 1 := by
  rw [Multiset.singleton_add, Multiset.count_cons_self]

theorem count_add_of_ne {j : Ticket} (tails : Multiset Ticket) (other : k ≠ j) :
    ({j} + tails).count k = tails.count k := by
  rw [Multiset.singleton_add, Multiset.count_cons_of_ne other]

theorem Stands.frame (st : T.Stands s h k) (quiet : ds.of k = [])
    (heads : headsOf T'.heads k = headsOf T.heads k) (tails : T'.tails.count k = T.tails.count k)
    (record : T'.tickets.find? k = T.tickets.find? k) : T'.Stands s (h ++ ds) k := by
  rw [Stands, History.of_append, quiet, List.append_nil, heads, tails, record]
  exact st

theorem Stands.issue (st : Stands s h ⟨heads, tails, ts, l⟩ k) (l' : Ledger) (d : Delivery)
    (new : h.of d.ticket = []) :
    Stands s (h ++ [.issued d]) ⟨{(d, .outside)} + heads, tails, ts.issue d.ticket, l'⟩ k := by
  by_cases same : d.ticket = k
  · subst same
    have before : Standing s d.ticket [] (headsOf heads d.ticket) (tails.count d.ticket)
        (ts.find? d.ticket) := new ▸ st
    obtain ⟨alone, noTails, -⟩ := before.absent_of_nil
    have here : History.of [.issued d] d.ticket = [.issued d] :=
      History.of_eq_self fun e mem => by rw [List.mem_singleton.1 mem]; rfl
    rw [Stands, History.of_append, new, here, headsOf_add_self rfl, alone, noTails,
      Tickets.find?_issue_self]
    exact .live .issued rfl
  · refine Stands.frame st ?_ (headsOf_add_of_ne same) rfl
      (Tickets.find?_issue_of_ne ts (Ne.symm same))
    exact History.of_eq_nil fun e mem => by
      rw [List.mem_singleton.1 mem]
      exact fun about => same (Option.some.inj about)

theorem Stands.hop {spot' : Spot} (st : Stands s h ⟨{(d, spot)} + heads, tails, ts, l⟩ k)
    (hop : Hop s d spot ds spot') : Stands s (h ++ ds) ⟨{(d, spot')} + heads, tails, ts, l⟩ k := by
  by_cases same : d.ticket = k
  · rw [Stands, headsOf_add_self same] at st ⊢
    obtain ⟨alone, held, start, course, ticket⟩ := st.live_of_head
    rw [History.of_append, History.of_eq_self (h := ds) fun e mem => same ▸ hop.ticket_of_mem mem,
      held, alone, add_zero]
    exact .live (course.hop hop) ticket
  · refine Stands.frame st ?_ ?_ rfl rfl
    · exact History.of_eq_nil_of_ne (fun e mem => hop.ticket_of_mem mem) (Ne.symm same)
    · rw [headsOf_add_of_ne same, headsOf_add_of_ne same]

theorem Stands.branch {onward : Delivery} {e : Deed} {g : Tier}
    (st : Stands s h ⟨{(d, spot)} + heads, tails, ts, l⟩ k) (branch : Branch d spot e onward g) :
    Stands s (h ++ [e]) ⟨{(onward, .moving g)} + heads, {d.ticket} + tails, ts.share d.ticket, l⟩ k := by
  have about : ∀ e' ∈ [e], e'.ticket? = some d.ticket := by
    intro e' mem
    cases branch
    rw [List.mem_singleton.1 mem]
    rfl
  have ticketOnward : onward.ticket = d.ticket := by
    cases branch
    rfl
  by_cases same : d.ticket = k
  · subst same
    rw [Stands, headsOf_add_self rfl] at st
    obtain ⟨alone, held, start, course, ticket⟩ := st.live_of_head
    rw [Stands, headsOf_add_self ticketOnward, alone, add_zero, History.of_append,
      History.of_eq_self about, count_add_self, Tickets.find?_share_self, held]
    exact .live (course.branch branch) ticket
  · refine Stands.frame st (History.of_eq_nil_of_ne about (Ne.symm same)) ?_ ?_
      (Tickets.find?_share_of_ne ts (Ne.symm same))
    · rw [headsOf_add_of_ne same, headsOf_add_of_ne (ticketOnward ▸ same)]
    · exact count_add_of_ne tails (Ne.symm same)

theorem Stands.halt {e : Deed} {mark : Option Mark}
    (st : Stands s h ⟨{(d, spot)} + heads, tails, ts, l⟩ k) (halt : Halt s d spot e mark) :
    Stands s (h ++ (e :: (ts.marked d.ticket mark).farewells d.ticket))
      ⟨heads, tails, (ts.marked d.ticket mark).release d.ticket, l⟩ k := by
  have about : ∀ e' ∈ e :: (ts.marked d.ticket mark).farewells d.ticket,
      e'.ticket? = some d.ticket := by
    intro e' mem
    rcases List.mem_cons.1 mem with rfl | said
    · cases halt <;> rfl
    · exact Tickets.ticket_of_mem_farewells said
  by_cases same : d.ticket = k
  · subst same
    rw [Stands, headsOf_add_self rfl] at st
    obtain ⟨alone, held, start, course, ticket⟩ := st.live_of_head
    rw [Stands, alone, History.of_append, History.of_eq_self about, List.append_cons]
    exact Standing.release_of_ended (.halt course halt) ticket (Tickets.find?_marked mark held)
  · refine Stands.frame st (History.of_eq_nil_of_ne about (Ne.symm same))
      (headsOf_add_of_ne same).symm rfl ?_
    rw [Tickets.find?_release_of_ne _ (Ne.symm same), Tickets.find?_marked_of_ne _ (Ne.symm same)]

theorem Stands.part {j : Ticket} (st : Stands s h ⟨heads, {j} + tails, ts, l⟩ k) :
    Stands s (h ++ ts.farewells j) ⟨heads, tails, ts.release j, l⟩ k := by
  have about : ∀ e ∈ ts.farewells j, e.ticket? = some j := fun e mem =>
    Tickets.ticket_of_mem_farewells mem
  by_cases same : j = k
  · subst same
    rw [Stands, count_add_self] at st
    rw [Stands, History.of_append, History.of_eq_self about]
    exact st.part
  · exact Stands.frame st (History.of_eq_nil_of_ne about (Ne.symm same)) rfl
      (count_add_of_ne tails (Ne.symm same)).symm (Tickets.find?_release_of_ne ts (Ne.symm same))

theorem Stands.settle {ts' : Tickets} {o : Outcome} (st : Stands s h ⟨heads, tails, ts, l⟩ k)
    (read : ts.read? = some (o, ts')) (l' : Ledger) (settlement : Settlement)
    (new : ∀ d ∈ settlement.waits, h.of d.ticket = []) :
    Stands s (h ++ (Deed.settled o settlement :: settlement.issues))
      ⟨settlement.heads + heads, tails, settlement.reissue ts', l'⟩ k := by
  have settled : Stands s (h ++ [Deed.settled o settlement]) ⟨heads, tails, ts', l⟩ k :=
    Stands.frame st rfl rfl rfl ((Tickets.read?_eq_some read).2 k)
  cases settlement with
  | redeliver d reason =>
    have unheard : (h ++ [Deed.settled o (.redeliver d reason)]).of d.ticket = [] := by
      rw [History.of_append, new d List.mem_cons_self]
      rfl
    rw [List.append_cons]
    exact settled.issue l' d unheard
  | _ =>
    simp only [Settlement.heads, Settlement.waits, List.map_nil, Multiset.coe_nil, zero_add]
    exact settled

/-- **Every step keeps the books of every ticket.** `new` says that a delivery is only handed out
under a ticket of its own. -/
theorem Step.stands (step : Step s T ds T') (new : ∀ d ∈ ds.deliveries, h.of d.ticket = [])
    (st : T.Stands s h k) : T'.Stands s (h ++ ds) k := by
  cases step with
  | rest =>
    rw [List.append_nil]
    exact st
  | emit x => exact st.issue _ _ (new _ List.mem_cons_self)
  | @settle _ _ _ _ l o read =>
    refine st.settle read _ _ fun d mem => new d ?_
    cases settlement : (l.settle o).2 with
    | redeliver d' reason =>
      rw [settlement] at mem
      exact mem
    | _ => rw [settlement] at mem; cases mem
  | hop hop => exact st.hop hop
  | branch branch => exact st.branch branch
  | halt halt => exact st.halt halt
  | part j => exact st.part

end Traffic

/-! ### What a standing ticket says -/

namespace Standing

variable {s : Settings} {k : Ticket} {h : History} {heads : Multiset (Delivery × Spot)} {n : Nat}
  {record : Option Held}

/-- What happened under a ticket starts with the one delivery that it stands for. -/
theorem deliveries_cases (st : Standing s k h heads n record) :
    h = [] ∨ ∃ start, h.deliveries = [start] ∧ start.ticket = k := by
  cases st with
  | absent => exact .inl rfl
  | live course ticket => exact .inr ⟨_, course.deliveries_eq, ticket⟩
  | ended ended ticket => exact .inr ⟨_, ended.deliveries_eq, ticket⟩
  | reported ended ticket =>
    refine .inr ⟨_, ?_, ticket⟩
    rw [History.deliveries_append, ended.deliveries_eq]
    rfl

theorem worked (st : Standing s k h heads n record) {e : Delivery} {t : Tier} {act : Act}
    {before after : Option SeriesState} (mem : .worked e t act before after ∈ h) :
    (Deed.worked e t act before after).Lawful ∧
      ∃ d ∈ h.deliveries, d.ticket = k ∧ e.Like d := by
  cases st with
  | absent => cases mem
  | live course ticket =>
    exact ⟨course.lawful_of_mem mem, _, course.deliveries_eq ▸ List.mem_cons_self, ticket,
      course.like_of_mem mem⟩
  | ended ended ticket =>
    exact ⟨ended.lawful_of_mem mem, _, ended.deliveries_eq ▸ List.mem_cons_self, ticket,
      ended.like_of_mem mem⟩
  | reported ended ticket =>
    rcases List.mem_append.1 mem with own | last
    · refine ⟨ended.lawful_of_mem own, _, ?_, ticket, ended.like_of_mem own⟩
      rw [History.deliveries_append, ended.deliveries_eq]
      exact List.mem_append_left _ List.mem_cons_self
    · cases List.mem_singleton.1 last

theorem unsent_of_held (st : Standing s k h heads n record) (held : record.isSome = true) :
    h.outcomes = [] := by
  cases st with
  | absent => rfl
  | live course => exact course.outcomes_eq_nil
  | ended ended => exact ended.outcomes_eq_nil
  | reported => cases held

/-- A ticket that was given up has its one outcome, and its delivery has come to its end. -/
theorem reported_of_sent (st : Standing s k h heads n record) {o : Outcome} (said : o ∈ h.outcomes) :
    record = none ∧ ∃ start mark h', Ended s start mark h' ∧ start.ticket = k ∧
      o = k.outcome mark ∧ h = h' ++ [.sent k o] := by
  cases st with
  | absent => cases said
  | live course => rw [course.outcomes_eq_nil] at said; cases said
  | ended ended => rw [ended.outcomes_eq_nil] at said; cases said
  | reported ended ticket =>
    rw [History.outcomes_append, ended.outcomes_eq_nil] at said
    obtain rfl := List.mem_singleton.1 said
    exact ⟨rfl, _, _, _, ended, ticket, rfl, rfl⟩

end Standing

namespace Traffic

variable {s : Settings} {h : History} {T : Traffic} {k : Ticket}

theorem Stands.of_eq_nil (st : T.Stands s h k) (unheard : ∀ d ∈ h.deliveries, d.ticket ≠ k) :
    h.of k = [] := by
  rcases st.deliveries_cases with none | ⟨start, deliveries, ticket⟩
  · exact none
  · have there : start ∈ (h.of k).deliveries := deliveries ▸ List.mem_singleton_self start
    exact absurd ticket (unheard start (History.mem_deliveries_of.1 there).1)

theorem Stands.eq_of_ticket (st : T.Stands s h k) {d e : Delivery} (first : d ∈ h.deliveries)
    (second : e ∈ h.deliveries) (ticket : d.ticket = k) (same : e.ticket = k) : d = e := by
  have one : d ∈ (h.of k).deliveries := History.mem_deliveries_of.2 ⟨first, ticket⟩
  have two : e ∈ (h.of k).deliveries := History.mem_deliveries_of.2 ⟨second, same⟩
  rcases st.deliveries_cases with none | ⟨start, deliveries, -⟩
  · rw [none] at one
    cases one
  · rw [deliveries] at one two
    rw [List.mem_singleton.1 one, List.mem_singleton.1 two]

theorem Stands.unsent (st : T.Stands s h k) (held : (T.tickets.find? k).isSome = true)
    (o : Outcome) : (k, o) ∉ h.sent := by
  intro said
  have mem : o ∈ (h.of k).outcomes :=
    List.mem_map.2 ⟨(k, o), History.mem_sent.2 (History.mem_of.2 ⟨History.mem_sent.1 said, rfl⟩), rfl⟩
  rw [st.unsent_of_held held] at mem
  cases mem

theorem Stands.reported_of_sent (st : T.Stands s h k) {o : Outcome} (said : .sent k o ∈ h) :
    T.tickets.find? k = none ∧ ∃ start mark h', Ended s start mark h' ∧ start.ticket = k ∧
      o = k.outcome mark ∧ h.of k = h' ++ [.sent k o] := by
  apply Standing.reported_of_sent st
  exact List.mem_map.2 ⟨(k, o), History.mem_sent.2 (History.mem_of.2 ⟨said, rfl⟩), rfl⟩

theorem Stands.worked (st : ∀ k, T.Stands s h k) {e : Delivery} {t : Tier} {act : Act}
    {before after : Option SeriesState} (mem : .worked e t act before after ∈ h) :
    (Deed.worked e t act before after).Lawful ∧ ∃ d ∈ h.deliveries, e.Like d := by
  obtain ⟨lawful, d, issued, -, like⟩ :=
    Standing.worked (st e.ticket) (History.mem_of.2 ⟨mem, rfl⟩)
  exact ⟨lawful, d, (History.mem_deliveries_of.1 issued).1, like⟩

end Traffic

end TierCascade
