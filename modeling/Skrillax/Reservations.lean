/-
**Reservations are redeemed at most once.**

A run of the login queue leaves a history of the reservations that were made and of the tokens that were
handed in.  The history determines what handing in a token does: it succeeds exactly for a reservation that
was made, has not been handed in and has not expired.

Main definitions:

* `QueueEvent`, `QueueRun` — the events of a run, and the histories and states that runs lead to;
* `Redeemable` — a history contains a reservation that can be handed in;
* `Tracks` — the stored reservations are the ones that can be handed in.

Main results:

* `tracks_of_run` — this holds throughout every run;
* `hand_in_is_exact` — **the tokens and the users of the stored reservations are distinct, and a token can be
  handed in exactly when it is redeemable, for the user who made the reservation**.
-/

import Skrillax.LoginQueue

set_option relaxedAutoImplicit false
set_option autoImplicit false

namespace Skrillax

open Rust Interference

open Relation (ReflTransGen)

/-! ### Histories -/

inductive QueueEvent where
  | made (token : UInt32) (content : ServerUser) (timeout : Instant)
  | redeemed (token : UInt32)
  deriving DecidableEq, Repr

section History

variable (profile : Profile) (max : UInt16) (reservationValidTime : UInt64)

/-- The histories and states of the queue between two calls.  A call that panics poisons the mutex, so that
no call comes after it. -/
inductive QueueRun : List QueueEvent → QueueState → Prop where
  | new (now : Instant) : QueueRun [] (.new now)
  | interfere {events : List QueueEvent} {s t : QueueState} (h : QueueRun events s)
      (hrely : QueueRely s t) : QueueRun events t
  | reserved {events : List QueueEvent} {s t : QueueState} (h : QueueRun events s) {draws : ℕ → UInt32}
      {content : ServerUser} {token : UInt32} {d : Duration} (reservation : Reservation)
      (hexec : Exec QueueRely (reserveSpot profile max reservationValidTime draws content) s
        (.ok (token, d)) t) (hlast : t.reservations.getLast? = some reservation) :
      QueueRun (events ++ [.made token content reservation.timeout]) t
  | notReserved {events : List QueueEvent} {s t : QueueState} (h : QueueRun events s)
      {draws : ℕ → UInt32} {content : ServerUser} {e : ReservationError}
      (hexec : Exec QueueRely (reserveSpot profile max reservationValidTime draws content) s
        (.error (.error e)) t) : QueueRun events t
  | redeemed {events : List QueueEvent} {s t : QueueState} (h : QueueRun events s) {token : UInt32}
      {playing : PlayingToken} {content : ServerUser}
      (hexec : Exec QueueRely (handInReservation token) s (.ok (playing, content)) t) :
      QueueRun (events ++ [.redeemed token]) t
  | notRedeemed {events : List QueueEvent} {s t : QueueState} (h : QueueRun events s) {token : UInt32}
      {e : ReservationError}
      (hexec : Exec QueueRely (handInReservation token) s (.error e) t) : QueueRun events t

/-- A reservation with the token was made by the user, has not been handed in since, and has not
expired. -/
def Redeemable (events : List QueueEvent) (token : UInt32) (now : Instant) (content : ServerUser) :
    Prop :=
  ∃ before timeout after, events = before ++ .made token content timeout :: after ∧
    .redeemed token ∉ after ∧ now < timeout

/-! ### The stored reservations -/

variable {profile max reservationValidTime}

/-- The stored reservations are the ones of the history that can be handed in. -/
structure Tracks (events : List QueueEvent) (s : QueueState) : Prop where
  stored : ∀ r ∈ s.reservations, ∃ before after,
    events = before ++ .made r.token r.content r.timeout :: after ∧ .redeemed r.token ∉ after
  complete : ∀ token now content, s.now ≤ now → Redeemable events token now content →
    ∃ r ∈ s.reservations, r.token = token ∧ r.content = content ∧ now < r.timeout
  tokens : s.reservations.Pairwise fun r r' => r.token ≠ r'.token
  users : s.reservations.Pairwise fun r r' => (r.content == r'.content) = false

variable {events : List QueueEvent} {s t : QueueState}

theorem mem_unexpired {now : Instant} {reservations : List Reservation} {r : Reservation} :
    r ∈ unexpired now reservations ↔ r ∈ reservations ∧ now < r.timeout := by
  rw [unexpired, List.mem_filter, decide_eq_true_iff]

/-- Cleaning up loses nothing that can be handed in later. -/
theorem Tracks.cleanup (h : Tracks events s) {now : Instant}
    (hres : t.reservations = unexpired now s.reservations) (hnow : s.now ≤ t.now) (hle : now ≤ t.now) :
    Tracks events t := by
  have hsub : t.reservations.Sublist s.reservations := by
    rw [hres]
    exact List.filter_sublist
  refine ⟨fun r hr => h.stored r (hsub.mem hr), fun token now' content hnow' hredeem => ?_,
    h.tokens.sublist hsub, h.users.sublist hsub⟩
  obtain ⟨r, hr, htoken, hcontent, hlt⟩ := h.complete token now' content (hnow.trans hnow') hredeem
  refine ⟨r, ?_, htoken, hcontent, hlt⟩
  rw [hres]
  exact mem_unexpired.2 ⟨hr, lt_of_le_of_lt (hle.trans hnow') hlt⟩

/-- A redeemable reservation of a history that goes on was redeemable, or is the one that was made. -/
theorem redeemable_made {token token' : UInt32} {content content' : ServerUser}
    {timeout now : Instant}
    (h : Redeemable (events ++ [.made token content timeout]) token' now content') :
    Redeemable events token' now content' ∨ (token' = token ∧ content' = content ∧ now < timeout) := by
  obtain ⟨before, timeout', after, heq, hnot, hlt⟩ := h
  rcases List.eq_nil_or_concat after with rfl | ⟨after, e, rfl⟩
  · obtain ⟨-, hlast⟩ := List.append_inj' heq rfl
    cases hlast
    exact Or.inr ⟨rfl, rfl, hlt⟩
  · rw [List.concat_eq_append, ← List.cons_append, ← List.append_assoc] at heq
    obtain ⟨heq, -⟩ := List.append_inj' heq rfl
    refine Or.inl ⟨before, timeout', after, heq, fun hmem => hnot ?_, hlt⟩
    rw [List.concat_eq_append]
    exact List.mem_append_left _ hmem

theorem redeemable_redeemed {token token' : UInt32} {content' : ServerUser} {now : Instant}
    (h : Redeemable (events ++ [.redeemed token]) token' now content') :
    Redeemable events token' now content' ∧ token' ≠ token := by
  obtain ⟨before, timeout', after, heq, hnot, hlt⟩ := h
  rcases List.eq_nil_or_concat after with rfl | ⟨after, e, rfl⟩
  · obtain ⟨-, hlast⟩ := List.append_inj' heq rfl
    cases hlast
  · rw [List.concat_eq_append] at hnot
    rw [List.concat_eq_append, ← List.cons_append, ← List.append_assoc] at heq
    obtain ⟨hevents, hlast⟩ := List.append_inj' heq rfl
    obtain rfl := List.singleton_inj.1 hlast
    refine ⟨⟨before, timeout', after, hevents, fun hmem => hnot (List.mem_append_left _ hmem), hlt⟩, ?_⟩
    rintro rfl
    exact hnot (List.mem_append_right _ List.mem_cons_self)

theorem Tracks.made (h : Tracks events s) {reservation : Reservation}
    (huser : s.reservations.any (·.content == reservation.content) = false)
    (htoken : s.reservations.any (·.token == reservation.token) = false)
    (hres : t.reservations = s.reservations ++ [reservation]) (hnow : s.now ≤ t.now) :
    Tracks (events ++ [.made reservation.token reservation.content reservation.timeout]) t := by
  rw [List.any_eq_false] at huser htoken
  constructor
  · intro r hr
    rw [hres] at hr
    rcases List.mem_append.1 hr with hr | hr
    · obtain ⟨before, after, heq, hnot⟩ := h.stored r hr
      refine ⟨before, after ++ [_], by rw [heq, List.append_assoc, List.cons_append], ?_⟩
      rw [List.mem_append]
      rintro (hmem | hmem)
      · exact hnot hmem
      · cases List.mem_singleton.1 hmem
    · obtain rfl := List.mem_singleton.1 hr
      exact ⟨events, [], rfl, List.not_mem_nil⟩
  · intro token now content hle hredeem
    rw [hres]
    rcases redeemable_made hredeem with hold | ⟨rfl, rfl, hlt⟩
    · obtain ⟨r, hr, hrest⟩ := h.complete token now content (hnow.trans hle) hold
      exact ⟨r, List.mem_append_left _ hr, hrest⟩
    · exact ⟨reservation, List.mem_append_right _ List.mem_cons_self, rfl, rfl, hlt⟩
  · rw [hres, List.pairwise_append]
    refine ⟨h.tokens, List.pairwise_singleton _ _, fun r hr r' hr' => ?_⟩
    obtain rfl := List.mem_singleton.1 hr'
    simpa using htoken r hr
  · rw [hres, List.pairwise_append]
    refine ⟨h.users, List.pairwise_singleton _ _, fun r hr r' hr' => ?_⟩
    obtain rfl := List.mem_singleton.1 hr'
    exact Bool.eq_false_of_not_eq_true (huser r hr)

/-- At most one reservation has the token. -/
theorem token_ne_of_mem_eraseP {reservations : List Reservation} {token : UInt32}
    (h : reservations.Pairwise fun r r' => r.token ≠ r'.token) :
    ∀ r ∈ reservations.eraseP (·.token == token), r.token ≠ token := by
  induction reservations with
  | nil => exact nofun
  | cons a reservations ih =>
      obtain ⟨ha, hrest⟩ := List.pairwise_cons.1 h
      by_cases htoken : a.token = token
      · rw [List.eraseP_cons_of_pos (by simpa using htoken)]
        exact fun r hr => htoken ▸ (ha r hr).symm
      · rw [List.eraseP_cons_of_neg (by simpa using htoken)]
        intro r hr
        rcases List.mem_cons.1 hr with rfl | hr
        · exact htoken
        · exact ih hrest r hr

theorem Tracks.redeemed (h : Tracks events s) {token : UInt32}
    (hres : t.reservations = s.reservations.eraseP (·.token == token)) (hnow : s.now ≤ t.now) :
    Tracks (events ++ [.redeemed token]) t := by
  have hsub : t.reservations.Sublist s.reservations := by
    rw [hres]
    exact List.eraseP_sublist
  refine ⟨fun r hr => ?_, fun token' now content hle hredeem => ?_, h.tokens.sublist hsub,
    h.users.sublist hsub⟩
  · obtain ⟨before, after, heq, hnot⟩ := h.stored r (hsub.mem hr)
    have hne : r.token ≠ token := token_ne_of_mem_eraseP h.tokens r (hres ▸ hr)
    refine ⟨before, after ++ [.redeemed token], by rw [heq, List.append_assoc, List.cons_append], ?_⟩
    rw [List.mem_append]
    rintro (hmem | hmem)
    · exact hnot hmem
    · cases List.mem_singleton.1 hmem
      exact hne rfl
  · obtain ⟨hold, hne⟩ := redeemable_redeemed hredeem
    obtain ⟨r, hr, rfl, hrest⟩ := h.complete token' now content (hnow.trans hle) hold
    refine ⟨r, ?_, rfl, hrest⟩
    rw [hres]
    exact (List.mem_eraseP_of_neg (by simpa using hne)).2 hr

theorem tracks_new (now : Instant) : Tracks [] (.new now) := by
  refine ⟨nofun, ?_, List.Pairwise.nil, List.Pairwise.nil⟩
  rintro token now content - ⟨before, timeout, after, heq, -⟩
  simp at heq

theorem Tracks.of_kept (h : Tracks events s) (hkept : Kept s t) : Tracks events t := by
  constructor
  · rw [hkept.reservations]
    exact h.stored
  · rw [hkept.reservations]
    exact fun token now content hle => h.complete token now content (hkept.now.trans hle)
  · rw [hkept.reservations]
    exact h.tokens
  · rw [hkept.reservations]
    exact h.users

/-- A call of `reserve_spot` that fails cleans up, and one that succeeds makes a reservation. -/
theorem Tracks.reserves (h : Tracks events s) {content : ServerUser}
    {r : Except (Failure ReservationError) (UInt32 × Duration)}
    (hreserves : Reserves reservationValidTime content s t r) :
    (Tracks events t ∧ ∀ a, r ≠ .ok a) ∨
      ∃ reservation, t.reservations.getLast? = some reservation ∧ reservation.content = content ∧
        Tracks (events ++ [.made reservation.token content reservation.timeout]) t ∧
        (r = .error .panic ∨ ∃ d, r = .ok (reservation.token, d)) := by
  cases hreserves with
  | failed now hnow hnow' hplayers hres hr => exact Or.inl ⟨h.cleanup hres (hnow.trans hnow') hnow', hr⟩
  | made now now' hnow hnow' hnow'' hplayers token spotToken huser htoken hres hr =>
      let cleaned : QueueState := { s with reservations := unexpired now s.reservations, now := now }
      have hcleaned : Tracks events cleaned := h.cleanup rfl hnow le_rfl
      refine Or.inr ⟨_, by rw [hres, List.getLast?_concat], rfl, ?_, hr⟩
      exact hcleaned.made huser htoken hres
        (hnow'.trans hnow'')

/-- A call of `hand_in_reservation` cleans up, and takes out the reservation that it found. -/
theorem Tracks.handsIn (h : Tracks events s) {token : UInt32} {now : Instant}
    {r : Except ReservationError (PlayingToken × ServerUser)} (hnow : s.now ≤ now)
    (hnow' : now ≤ t.now) (hhands : HandsIn token s t r now) :
    (r = .error .noSuchToken ∧ Tracks events t) ∨
      ∃ content, r = .ok ({}, content) ∧ Tracks (events ++ [.redeemed token]) t := by
  cases hhands with
  | found reservation hfind hres hplayers hr =>
      let cleaned : QueueState := { s with reservations := unexpired now s.reservations, now := now }
      have hcleaned : Tracks events cleaned := h.cleanup rfl hnow le_rfl
      exact Or.inr ⟨reservation.content, hr, hcleaned.redeemed hres hnow'⟩
  | unknown hfind hres hplayers hr => exact Or.inl ⟨hr, h.cleanup hres (hnow.trans hnow') hnow'⟩

theorem tracks_of_run (h : QueueRun profile max reservationValidTime events s) : Tracks events s := by
  induction h with
  | new now => exact tracks_new now
  | interfere _ hrely ih => exact ih.of_kept (kept_of_rely (.single hrely))
  | reserved _ reservation hexec hlast ih =>
      rcases ih.reserves (exec_reserveSpot hexec) with ⟨-, hr⟩ | ⟨reservation', hlast', -, htracks, hr⟩
      · exact absurd rfl (hr _)
      · rw [hlast, Option.some_inj] at hlast'
        subst hlast'
        rcases hr with hr | ⟨d, hr⟩
        · cases hr
        · cases hr
          exact htracks
  | notReserved _ hexec ih =>
      rcases ih.reserves (exec_reserveSpot hexec) with ⟨htracks, -⟩ | ⟨_, -, -, -, hr | ⟨d, hr⟩⟩
      · exact htracks
      · cases hr
      · cases hr
  | redeemed _ hexec ih =>
      obtain ⟨now, hnow, hnow', hhands⟩ := exec_handInReservation hexec
      rcases ih.handsIn hnow hnow' hhands with ⟨hr, -⟩ | ⟨-, -, htracks⟩
      · cases hr
      · exact htracks
  | notRedeemed _ hexec ih =>
      obtain ⟨now, hnow, hnow', hhands⟩ := exec_handInReservation hexec
      rcases ih.handsIn hnow hnow' hhands with ⟨-, htracks⟩ | ⟨_, hr, -⟩
      · exact htracks
      · cases hr

/-- The reservation that is found is the one that the history tells about. -/
theorem Tracks.find?_eq_some_iff (h : Tracks events s) {token : UInt32} {now : Instant}
    (hnow : s.now ≤ now) {content : ServerUser} :
    (∃ r, (unexpired now s.reservations).find? (·.token == token) = some r ∧ r.content = content) ↔
      Redeemable events token now content := by
  constructor
  · rintro ⟨r, hfind, rfl⟩
    obtain ⟨hr, hlt⟩ := mem_unexpired.1 (List.mem_of_find?_eq_some hfind)
    obtain ⟨before, after, heq, hnot⟩ := h.stored r hr
    obtain rfl : r.token = token := by simpa using List.find?_some hfind
    exact ⟨before, r.timeout, after, heq, hnot, hlt⟩
  · intro hredeem
    obtain ⟨r, hr, rfl, rfl, hlt⟩ := h.complete token now content hnow hredeem
    have hmem : r ∈ unexpired now s.reservations := mem_unexpired.2 ⟨hr, hlt⟩
    have hsub : (unexpired now s.reservations).Sublist s.reservations := List.filter_sublist
    rcases hfind : (unexpired now s.reservations).find? (·.token == r.token) with _ | r'
    · exact absurd (beq_self_eq_true r.token) (List.find?_eq_none.1 hfind r hmem)
    · -- the tokens are distinct, so that there is no other reservation to be found
      have hr' := List.mem_of_find?_eq_some hfind
      have htoken : r'.token = r.token := by simpa using List.find?_some hfind
      have hnodup : ((unexpired now s.reservations).map Reservation.token).Nodup :=
        List.pairwise_map.2 (h.tokens.sublist hsub)
      exact ⟨r', hfind, by rw [List.inj_on_of_nodup_map hnodup hr' hmem htoken]⟩

end History

/-- **The tokens and the users of the stored reservations are distinct, and a token can be handed in exactly
when it is redeemable, for the user who made the reservation.**  Here `now` is the time that the call reads. -/
theorem hand_in_is_exact (profile : Profile) (max : UInt16) (reservationValidTime : UInt64)
    (events : List QueueEvent) (s : QueueState)
    (h : QueueRun profile max reservationValidTime events s) :
    (s.reservations.Pairwise fun r r' => r.token ≠ r'.token) ∧
      (s.reservations.Pairwise fun r r' => (r.content == r'.content) = false) ∧
      ∀ token r t, Exec QueueRely (handInReservation token) s r t →
        ∃ now, s.now ≤ now ∧ now ≤ t.now ∧
          (∀ content, r = .ok ({}, content) ↔ Redeemable events token now content) ∧
          ((∀ content, ¬ Redeemable events token now content) →
            r = .error .noSuchToken ∧ t.players ≤ s.players) := by
  have htracks := tracks_of_run h
  refine ⟨htracks.tokens, htracks.users, fun token r t hexec => ?_⟩
  obtain ⟨now, hnow, hnow', hhands⟩ := exec_handInReservation hexec
  refine ⟨now, hnow, hnow', fun content => ?_, fun hnone => ?_⟩
  · rw [← htracks.find?_eq_some_iff hnow]
    cases hhands with
    | found reservation hfind hres hplayers hr =>
        rw [hr, hfind]
        simp
    | unknown hfind hres hplayers hr =>
        rw [hr, hfind]
        simp
  · cases hhands with
    | found reservation hfind hres hplayers hr =>
        exact absurd ((htracks.find?_eq_some_iff hnow).1 ⟨reservation, hfind, rfl⟩) (hnone _)
    | unknown hfind hres hplayers hr => exact ⟨hr, hplayers⟩

/-- The history of a single reservation. -/
theorem run_oneReservation :
    QueueRun .debug 2 30 [.made 7 firstUser 30000000000] oneReservation := by
  have hexec : Exec QueueRely (reserveSpot .debug 2 30 (fun _ => 7) firstUser) (.new 0)
      (.ok (7, fromSecs 29)) oneReservation := Exec.of_run _ _
  exact .reserved (.new 0) ⟨7, firstUser, 30000000000, {}⟩ hexec rfl

theorem hand_in_oneReservation_is_exact :
    (oneReservation.reservations.Pairwise fun r r' => r.token ≠ r'.token) ∧
      (oneReservation.reservations.Pairwise fun r r' => (r.content == r'.content) = false) ∧
      ∀ token r t, Exec QueueRely (handInReservation token) oneReservation r t →
        ∃ now, oneReservation.now ≤ now ∧ now ≤ t.now ∧
          (∀ content, r = .ok ({}, content) ↔
            Redeemable [.made 7 firstUser 30000000000] token now content) ∧
          ((∀ content, ¬ Redeemable [.made 7 firstUser 30000000000] token now content) →
            r = .error .noSuchToken ∧ t.players ≤ oneReservation.players) :=
  hand_in_is_exact .debug 2 30 _ oneReservation run_oneReservation

example : ((handInReservation 7).run oneReservation).1 = .ok ({}, firstUser) := rfl

end Skrillax
