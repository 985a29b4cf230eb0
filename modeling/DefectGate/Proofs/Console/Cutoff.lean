import DefectGate.Proofs.Console.Separation

/-! # Consoles that give up

A console may take a certain number of bytes, in portions of its own choice, and refuse everything
after that. Of bytes that are put on it such a console has then shown exactly as many as it takes,
from the first one on, and it is not asked again after it has refused.
-/
namespace DefectGate.Console
open Program

/-- A console that accepts a certain number of bytes in all and then refuses for good. -/
structure Limited (κ : Type) extends Device κ where
  /-- How many more bytes it accepts. -/
  room : κ → Nat
  idle (k : κ) : room (offer [] k).2 = room k
  takes (bytes : Bytes) (k : κ) (hne : bytes ≠ []) (hroom : 0 < room k) :
    ∃ accepted : Nat, (offer bytes k).1 = .ok accepted ∧ 0 < accepted ∧
      accepted ≤ bytes.length ∧ accepted ≤ room k ∧ room (offer bytes k).2 = room k - accepted
  refuses (bytes : Bytes) (k : κ) (hne : bytes ≠ []) (hroom : room k = 0) :
    (∃ e, (offer bytes k).1 = .error e) ∧ room (offer bytes k).2 = 0

/-- A console that accepts as much of an offer as it has room for. -/
def greedy : Limited Nat where
  offer bytes room :=
    if room = 0 then (.error (.condition .brokenPipe), 0)
    else (.ok (min room bytes.length), room - bytes.length)
  flush room := (.ok (), room)
  room := id
  idle room := by
    by_cases h : room = 0 <;> simp [h]
  takes bytes room hne hroom := by
    have hpos : 0 < bytes.length := List.length_pos_of_ne_nil hne
    have hroom : 0 < room := hroom
    refine ⟨min room bytes.length, ?_, ?_, ?_, ?_, ?_⟩
    · simp [hroom.ne']
    · omega
    · omega
    · exact Nat.min_le_left _ _
    · simp only [hroom.ne', if_false, id_eq]
      omega
  refuses bytes room hne hroom := by
    have hroom : room = 0 := hroom
    simp [hroom]

namespace Limited
variable {σ κ : Type} {h : Host σ} {s s' : σ} (d : Limited κ) {k k' : κ} {steps : List Step}

/-- What has been shown and what is still accepted make up what was accepted at first. -/
theorem account (hsteps : (h.withConsole d.toDevice).Answers (s, k) steps (s', k'))
    (hprint : ∀ step ∈ steps, ∃ bytes, step.call = .print bytes) :
    (shown steps).length + d.room k' = d.room k ∧
      ((∀ step ∈ steps, step.Accepted) ∨ d.room k' = 0) := by
  induction steps generalizing s k with
  | nil =>
    cases Host.answers_nil_iff.mp hsteps
    simp
  | cons step steps ih =>
    obtain ⟨c, answer⟩ := step
    obtain ⟨bytes, rfl : c = .print bytes⟩ := hprint _ (List.mem_cons_self ..)
    obtain ⟨mid, hanswer, hrest⟩ := Host.answers_cons_iff.mp hsteps
    obtain ⟨rfl, rfl⟩ : (d.offer bytes k).1 = answer ∧ (s, (d.offer bytes k).2) = mid :=
      Prod.mk.inj hanswer
    obtain ⟨hlength, hend⟩ := ih hrest fun step hstep => hprint step (List.mem_cons_of_mem _ hstep)
    rw [shown_cons, List.length_append]
    by_cases hne : bytes = []
    · subst hne
      have hshown : Step.shown ⟨.print [], (d.offer [] k).1⟩ = [] := by
        cases (d.offer [] k).1 <;> simp [Step.shown]
      rw [d.idle] at hlength
      rw [hshown, List.length_nil, Nat.zero_add]
      refine ⟨hlength, hend.imp_left fun hall => ?_⟩
      exact List.forall_mem_cons.mpr ⟨fun hne => absurd rfl hne, hall⟩
    by_cases hroom : d.room k = 0
    · obtain ⟨⟨e, he⟩, hleft⟩ := d.refuses bytes k hne hroom
      have hshown : Step.shown ⟨.print bytes, (d.offer bytes k).1⟩ = [] := by
        rw [he]
        rfl
      rw [hshown, List.length_nil, Nat.zero_add, hroom]
      omega
    · obtain ⟨accepted, haccepted, hpos, hle, hle', hleft⟩ :=
        d.takes bytes k hne (Nat.pos_of_ne_zero hroom)
      have hshown : Step.shown ⟨.print bytes, (d.offer bytes k).1⟩ = bytes.take accepted := by
        rw [haccepted]
        rfl
      rw [hshown, List.length_take]
      refine ⟨by omega, hend.imp_left fun hall => ?_⟩
      exact List.forall_mem_cons.mpr ⟨fun _ => ⟨accepted, haccepted, hpos⟩, hall⟩

/-- A limited console shows as many of the bytes as it accepts, from the first one on. -/
theorem shown_eq_take {bs : Bytes} (hshows : Shows bs steps)
    (hsteps : (h.withConsole d.toDevice).Answers (s, k) steps (s', k')) :
    shown steps = bs.take (d.room k) := by
  obtain ⟨hlength, hall | hzero⟩ := d.account hsteps hshows.printing
  · rw [hshows.whole hall] at hlength ⊢
    exact (List.take_of_length_le (by omega)).symm
  · rw [hzero, Nat.add_zero] at hlength
    rw [← hlength]
    exact List.prefix_iff_eq_take.mp hshows.beginning

end Limited

/-- A console that refuses is not called again. -/
def StopsAtRefusal (steps : List Step) : Prop :=
  ∀ before step after, steps = before ++ step :: after → ¬ step.Accepted → after = []

theorem accepted_of_silent {steps : List Step}
    (h : ∀ step ∈ steps, step.call.isShown = false) : ∀ step ∈ steps, step.Accepted := by
  intro step hstep
  obtain ⟨c, answer⟩ := step
  have hc : c.isShown = false := h _ hstep
  cases c <;> trivial

theorem stopsAtRefusal_of_silent {steps : List Step}
    (h : ∀ step ∈ steps, step.call.isShown = false) : StopsAtRefusal steps := by
  rintro before step after rfl hrefused
  exact absurd (accepted_of_silent h step (by simp)) hrefused

/-- A run that ends well was never refused, and one that was refused ends there. -/
structure Stops (steps : List Step) (r : Except Host.Error Unit) : Prop where
  accepted : r = .ok () → ∀ step ∈ steps, step.Accepted
  last : StopsAtRefusal steps

theorem stops_nil (r : Except Host.Error Unit) : Stops [] r where
  accepted _ := by simp
  last before step after h := by simp at h

theorem stops_singleton {step : Step} {r : Except Host.Error Unit}
    (h : r = .ok () → step.Accepted) : Stops [step] r where
  accepted hr := by simpa using h hr
  last before other after hsplit _ := by
    have hlength := congrArg List.length hsplit
    simp only [List.length_append, List.length_cons, List.length_nil] at hlength
    exact List.eq_nil_of_length_eq_zero (by omega)

theorem stopsAtRefusal_append {first rest : List Step} (hfirst : ∀ step ∈ first, step.Accepted)
    (hrest : StopsAtRefusal rest) : StopsAtRefusal (first ++ rest) := by
  intro before step after hsplit hrefused
  rcases List.append_eq_append_iff.mp hsplit with ⟨more, -, hmore⟩ | ⟨more, hmore, hcons⟩
  · exact hrest more step after hmore hrefused
  · cases more with
    | nil => exact hrest [] step after hcons.symm hrefused
    | cons other more =>
      obtain ⟨rfl, -⟩ := List.cons_eq_cons.mp hcons
      exact absurd (hfirst step (by simp [hmore])) hrefused

theorem Stops.append {first rest : List Step} {r : Except Host.Error Unit}
    (hfirst : Stops first (.ok ())) (hrest : Stops rest r) : Stops (first ++ rest) r where
  accepted hr := List.forall_mem_append.mpr ⟨hfirst.accepted rfl, hrest.accepted hr⟩
  last := stopsAtRefusal_append (hfirst.accepted rfl) hrest.last

theorem offer_stops {offers : Nat} {bs : Bytes} {steps : List Step} {r : Except Host.Error Unit}
    (h : (offer offers bs).run.Yields steps r) : Stops steps r := by
  induction offers generalizing bs steps with
  | zero =>
    cases bs with
    | nil =>
      obtain ⟨rfl, -⟩ := yields_pure_iff.mp h
      exact stops_nil _
    | cons b bs =>
      obtain ⟨rfl, -⟩ := yields_throw_iff.mp h
      exact stops_nil _
  | succ offers ih =>
    cases bs with
    | nil =>
      obtain ⟨rfl, -⟩ := yields_pure_iff.mp h
      exact stops_nil _
    | cons b bs =>
      rcases yields_seq_iff.mp h with ⟨e, rfl, hask⟩ | ⟨first, accepted, rest, rfl, hask, hrest⟩
      · rw [yields_ask_iff.mp hask]
        exact stops_singleton nofun
      · obtain rfl := yields_ask_iff.mp hask
        change Nat at accepted
        by_cases hzero : accepted = 0
        · subst hzero
          obtain ⟨rfl, rfl⟩ := yields_throw_iff.mp hrest
          exact stops_singleton nofun
        · simp only [if_neg hzero] at hrest
          have htaken : Stops [⟨.print (b :: bs), .ok accepted⟩] (.ok ()) :=
            stops_singleton fun _ _ => ⟨accepted, rfl, Nat.pos_of_ne_zero hzero⟩
          exact htaken.append (ih hrest)

theorem putLine_stops {line : String} {steps : List Step} {r : Except Host.Error Unit}
    (h : (putLine line).run.Yields steps r) : Stops steps r := by
  rcases yields_seq_iff.mp h with ⟨e, rfl, hput⟩ | ⟨first, _, rest, rfl, hput, hrest⟩
  · exact offer_stops hput
  · exact (offer_stops hput).append (offer_stops hrest)

/-- Nothing more is shown after the console has refused a line or a part of it. -/
theorem echo_stops {lines : List String} {steps : List Step} {u : Unit}
    (h : (echo lines).Yields steps u) : StopsAtRefusal steps := by
  induction lines generalizing steps with
  | nil =>
    obtain ⟨rfl, -⟩ := yields_done_iff.mp h
    exact (stops_nil (.ok ())).last
  | cons line lines ih =>
    obtain ⟨first, r, rest, rfl, hline, hrest⟩ := yields_bind_iff.mp h
    cases r with
    | error e =>
      obtain ⟨rfl, -⟩ := yields_done_iff.mp hrest
      rw [List.append_nil]
      exact (putLine_stops hline).last
    | ok _ => exact stopsAtRefusal_append ((putLine_stops hline).accepted rfl) (ih hrest)

end DefectGate.Console
