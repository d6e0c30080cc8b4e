import Mathlib
import ClusterSteward.Proofs.Prompt.Stepping

/-!
# When a session closes

The looks at the clock divide the time of a session into windows. A session closes as idle at the
first look whose window brings no token, if the output has not ended by then, and otherwise when the
output ends. Main statements: `Tracked.closesInTime_run`, which says so of every session whose windows
so far have each brought a token, and `Session.closesInTime`, which says so of a session from its
start on.
-/

namespace ClusterSteward.Prompt

/-- The times at which the steps of a stream complete tokens, when some bytes are pending at the given
time. -/
def tokenTimes : List UInt8 → Nat → List StreamStep → List Nat
  | pending, time, [] => (Token.takeLast pending).map fun _ ↦ time
  | pending, time, .chunk bytes :: steps =>
      (Token.takeAll (pending ++ bytes)).1.map (fun _ ↦ time) ++
        tokenTimes (Token.takeAll (pending ++ bytes)).2 time steps
  | pending, time, .silence duration :: steps => tokenTimes pending (time + duration) steps
  | _, _, .failure :: _ => []
  | _, _, .hang :: _ => []

/-- The time at which the steps of a stream that begin at the given time come to the end of the stream
or to a failure, unless they hang. -/
def endTime : Nat → List StreamStep → Option Nat
  | time, [] => some time
  | time, .chunk _ :: steps => endTime time steps
  | time, .silence duration :: steps => endTime (time + duration) steps
  | time, .failure :: _ => some time
  | _, .hang :: _ => none

/-- The window of a look is the time after the look before it, up to and including the look. The
window of look one also has the start of the session. -/
def InWindow (look time : Nat) : Prop :=
  time ≤ interval * look ∧ (look = 1 ∨ interval * (look - 1) < time)

/-- A look finds the tool idle: the output has not ended or failed by then, and none of the times of
the tokens is in its window. Looks are counted from one. -/
structure Quiet (times : List Nat) (finish : Option Nat) (look : Nat) : Prop where
  pos : 0 < look
  before_end : ∀ time ∈ finish, interval * look < time
  no_token : ∀ time ∈ times, ¬ InWindow look time

/-- A session closes as idle at the first look that finds the tool idle. If there is none, the output
ends or fails, and the session closes then. -/
def ClosesInTime (times : List Nat) (finish : Option Nat) (closing : Closing) : Prop :=
  (∃ look, IsLeast {look | Quiet times finish look} look ∧
      closing.ending = .idle ∧ closing.time = interval * look) ∨
    ((∀ look, ¬ Quiet times finish look) ∧
      closing.ending = .endOfStream ∧ finish = some closing.time)

/-- The tokens of an open session came at the given times. Every look so far has found one of them in
its window, and the session has heard whether there is one in the window of the next look. -/
structure Tracked (times : List Nat) (session : Session) : Prop where
  le_now : ∀ time ∈ times, time ≤ session.time
  onTime : session.time ≤ session.nextLook
  started : session.looks = 0 ∨ interval * session.looks < session.time
  looked : ∀ look, 0 < look → look ≤ session.looks → ∃ time ∈ times, InWindow look time
  heard_iff : session.heard = true ↔ ∃ time ∈ times, InWindow (session.looks + 1) time

variable {times later : List Nat} {finish : Option Nat} {session : Session}
  {steps : List StreamStep} {closing : Closing}

/-- Later steps complete tokens no earlier. -/
theorem le_of_mem_tokenTimes {pending : List UInt8} {start time : Nat}
    (h : time ∈ tokenTimes pending start steps) : start ≤ time := by
  induction steps generalizing pending start with
  | nil => exact (List.eq_of_mem_map_const h).ge
  | cons step steps ih =>
      cases step with
      | chunk bytes =>
          rcases List.mem_append.1 h with hnow | hlater
          · exact (List.eq_of_mem_map_const hnow).ge
          · exact ih hlater
      | silence duration => exact (Nat.le_add_right _ _).trans (ih h)
      | failure => cases h
      | hang => cases h

/-- Steps do not end before they begin. -/
theorem le_of_mem_endTime {start time : Nat} (h : time ∈ endTime start steps) : start ≤ time := by
  induction steps generalizing start with
  | nil => exact (Option.some.inj h).le
  | cons step steps ih =>
      cases step with
      | chunk bytes => exact ih h
      | silence duration => exact (Nat.le_add_right _ _).trans (ih h)
      | failure => exact (Option.some.inj h).le
      | hang => cases h

/-- A session starts with nothing heard. -/
theorem tracked_start (reactions : List Reaction) (intake : Intake) :
    Tracked [] { reactions, intake } where
  le_now := nofun
  onTime := Nat.zero_le _
  started := .inl rfl
  looked := fun _ hpos hle => absurd hpos (Nat.not_lt.2 hle)
  heard_iff := by simp

namespace Tracked

/-- Now is in the window of the next look. -/
theorem inWindow_now (h : Tracked times session) : InWindow (session.looks + 1) session.time :=
  ⟨h.onTime, h.started.imp (fun hzero => by rw [hzero]) id⟩

/-- Tokens that are completed now are heard. -/
theorem receive (h : Tracked times session) (chunk : List UInt8) :
    Tracked (times ++ (Token.takeAll (session.pending ++ chunk)).1.map fun _ ↦ session.time)
      (session.receive chunk) := by
  rw [Session.receive_eq]
  refine ⟨?_, h.onTime, h.started, ?_, ?_⟩
  · intro time htime
    rcases List.mem_append.1 htime with hold | hnew
    · exact h.le_now time hold
    · exact (List.eq_of_mem_map_const hnew).le
  · intro look hpos hle
    obtain ⟨time, htime, hwindow⟩ := h.looked look hpos hle
    exact ⟨time, List.mem_append_left _ htime, hwindow⟩
  · have hnew : (!(Token.takeAll (session.pending ++ chunk)).1.isEmpty) = true ↔
        ∃ time ∈ (Token.takeAll (session.pending ++ chunk)).1.map fun _ ↦ session.time,
          InWindow (session.looks + 1) time := by
      cases (Token.takeAll (session.pending ++ chunk)).1 with
      | nil => simp
      | cons token tokens => simp [h.inWindow_now]
    rw [Bool.or_eq_true, h.heard_iff, hnew]
    simp only [List.mem_append, or_and_right, exists_or]

/-- A silence that ends by the next look brings nothing new. -/
theorem wait_short {duration : Nat} (h : Tracked times session)
    (hlook : session.time + duration ≤ session.nextLook) :
    Tracked times { session with time := session.time + duration } where
  le_now time htime := (h.le_now time htime).trans (Nat.le_add_right _ _)
  onTime := hlook
  started := h.started.imp id fun hbefore => hbefore.trans_le (Nat.le_add_right _ _)
  looked := h.looked
  heard_iff := h.heard_iff

/-- No token that came by the next look is in a window after it. -/
theorem not_inWindow (h : Tracked times session) {look time : Nat} (htime : time ∈ times)
    (hlook : session.looks + 1 < look) : ¬ InWindow look time := by
  rintro ⟨-, hone | hafter⟩
  · omega
  · have hnow := (h.le_now time htime).trans h.onTime
    have hle : interval * (session.looks + 1) ≤ interval * (look - 1) :=
      Nat.mul_le_mul_left _ (by omega)
    exact absurd (hafter.trans_le hnow) (Nat.not_lt.2 hle)

/-- A silence after which the session forgets what it has heard ends in the window of the look after
the next. -/
theorem wait_long {duration : Nat} (h : Tracked times session) (hheard : session.heard = true)
    (hlook : session.nextLook < session.time + duration)
    (hagain : session.time + duration ≤ session.nextLook + interval) :
    Tracked times { session with
      heard := false, time := session.time + duration, looks := session.looks + 1 } where
  le_now time htime := (h.le_now time htime).trans (Nat.le_add_right _ _)
  onTime := hagain
  started := .inr hlook
  looked look hpos hle := by
    rcases Nat.lt_or_eq_of_le hle with hlt | rfl
    · exact h.looked look hpos (Nat.le_of_lt_succ hlt)
    · exact h.heard_iff.1 hheard
  heard_iff := by
    refine iff_of_false Bool.false_ne_true ?_
    rintro ⟨time, htime, hwindow⟩
    exact h.not_inWindow htime (Nat.lt_succ_self _) hwindow

/-- The look at which the session closes as idle if it hears nothing more has no token in its window
yet, unlike every look before it. -/
theorem exists_idleLook (h : Tracked times session) :
    ∃ look, session.idleLook = interval * look ∧ 0 < look ∧
      (∀ time ∈ times, ¬ InWindow look time) ∧
      ∀ earlier, 0 < earlier → earlier < look → ∃ time ∈ times, InWindow earlier time := by
  rw [Session.idleLook]
  cases hheard : session.heard with
  | true =>
      refine ⟨session.looks + 1 + 1, (Nat.mul_succ ..).symm, Nat.succ_pos _, ?_, ?_⟩
      · exact fun time htime => h.not_inWindow htime (Nat.lt_succ_self _)
      · intro earlier hpos hlt
        rcases Nat.lt_or_eq_of_le (Nat.le_of_lt_succ hlt) with hbefore | rfl
        · exact h.looked earlier hpos (Nat.le_of_lt_succ hbefore)
        · exact h.heard_iff.1 hheard
  | false =>
      refine ⟨session.looks + 1, rfl, Nat.succ_pos _, ?_, ?_⟩
      · intro time htime hwindow
        cases hheard.symm.trans (h.heard_iff.2 ⟨time, htime, hwindow⟩)
      · exact fun earlier hpos hlt => h.looked earlier hpos (Nat.le_of_lt_succ hlt)

/-- The look at which the session closes as idle if it hears nothing more is the first that finds the
tool idle, if nothing more comes by then. -/
theorem closesInTime_closeIdle (h : Tracked times session)
    (hlater : ∀ time ∈ later, session.idleLook < time)
    (hfinish : ∀ time ∈ finish, session.idleLook < time) :
    ClosesInTime (times ++ later) finish (session.closeIdle session.idleLook) := by
  obtain ⟨look, heq, hpos, hnone, hearlier⟩ := h.exists_idleLook
  rw [heq] at hlater hfinish
  refine .inl ⟨look, ⟨⟨hpos, hfinish, fun time htime => ?_⟩, fun other hquiet => ?_⟩, rfl, heq⟩
  · rcases List.mem_append.1 htime with hold | hnew
    · exact hnone time hold
    · exact fun hwindow => absurd hwindow.1 (Nat.not_le.2 (hlater time hnew))
  · by_contra hlt
    obtain ⟨time, htime, hwindow⟩ := hearlier other hquiet.pos (Nat.not_le.1 hlt)
    exact hquiet.no_token time (List.mem_append_left _ htime) hwindow

/-- When the output ends or fails, no look has found the tool idle. -/
theorem closesInTime_of_end (h : Tracked times session) (hending : closing.ending = .endOfStream)
    (htime : closing.time = session.time) :
    ClosesInTime (times ++ later) (some session.time) closing := by
  refine .inr ⟨fun look hquiet => ?_, hending, congrArg some htime.symm⟩
  have hbefore : interval * look < interval * (session.looks + 1) :=
    (hquiet.before_end _ rfl).trans_le h.onTime
  have hle : look ≤ session.looks := Nat.le_of_lt_succ (Nat.lt_of_mul_lt_mul_left hbefore)
  obtain ⟨time, hmem, hwindow⟩ := h.looked look hquiet.pos hle
  exact hquiet.no_token time (List.mem_append_left _ hmem) hwindow

/-- A session whose windows so far have each brought a token closes in time. -/
theorem closesInTime_run (h : Tracked times session) (steps : List StreamStep) :
    ClosesInTime (times ++ tokenTimes session.pending session.time steps)
      (endTime session.time steps) (session.run steps) := by
  -- each step keeps the session tracked, or closes it
  induction steps generalizing times session with
  | nil =>
      exact h.closesInTime_of_end (congrArg Closing.ending session.close_eq)
        (congrArg Closing.time session.close_eq)
  | cons step steps ih =>
      cases step with
      | chunk bytes =>
          have hrun := ih (h.receive bytes)
          rw [List.append_assoc, Session.receive_eq] at hrun
          rw [Session.run, Session.receive_eq]
          exact hrun
      | silence duration =>
          rcases session.wait_cases duration with
            ⟨hlook, hwait⟩ | ⟨hheard, hlook, hagain, hwait⟩ | ⟨hidle, hwait⟩
          · rw [Session.run_silence_of_ok hwait]
            exact ih (h.wait_short hlook)
          · rw [Session.run_silence_of_ok hwait]
            exact ih (h.wait_long hheard hlook hagain)
          · rw [Session.run_silence_of_error hwait]
            exact h.closesInTime_closeIdle
              (fun _ htime => hidle.trans_le (le_of_mem_tokenTimes htime))
              (fun _ htime => hidle.trans_le (le_of_mem_endTime htime))
      | failure => exact h.closesInTime_of_end rfl rfl
      | hang =>
          exact h.closesInTime_closeIdle (fun _ htime => absurd htime List.not_mem_nil)
            (fun time htime => absurd htime (Option.not_mem_none time))

end Tracked

namespace ClosesInTime

/-- A session does not close as idle when every look before the end finds a token. -/
theorem ne_idle (h : ClosesInTime times finish closing)
    (hsteady : ∀ look, 0 < look → (∀ time ∈ finish, interval * look < time) →
      ∃ time ∈ times, InWindow look time) : closing.ending ≠ .idle := by
  intro hidle
  rcases h with ⟨look, ⟨hquiet, -⟩, -, -⟩ | ⟨-, hending, -⟩
  · obtain ⟨time, htime, hwindow⟩ := hsteady look hquiet.pos hquiet.before_end
    exact hquiet.no_token time htime hwindow
  · cases hidle.symm.trans hending

/-- A session that closes as idle does so between one and two intervals after the last token that came
before. -/
theorem idle_bounds (h : ClosesInTime times finish closing) (hidle : closing.ending = .idle)
    {last : Nat} (hlast : IsGreatest {time | time ∈ times ∧ time ≤ closing.time} last) :
    last + interval ≤ closing.time ∧ closing.time ≤ last + 2 * interval := by
  rcases h with ⟨look, ⟨hquiet, hleast⟩, -, htime⟩ | ⟨-, hending, -⟩
  · rw [htime] at hlast ⊢
    obtain ⟨⟨hmem, hle⟩, hgreatest⟩ := hlast
    -- the last token came before the window of the look, so this is not the first look
    obtain ⟨hfirst, hbefore⟩ : look ≠ 1 ∧ last ≤ interval * (look - 1) := by
      simpa [InWindow, hle] using hquiet.no_token last hmem
    -- the look before found a token in its window, no later than the last one
    have hearlier : ¬ Quiet times finish (look - 1) := fun hquiet' =>
      absurd (hleast hquiet') (by have := hquiet.pos; omega)
    obtain ⟨time, htime, hwindow⟩ : ∃ time ∈ times, InWindow (look - 1) time := by
      by_contra hnone
      push Not at hnone
      refine hearlier ⟨?_, fun time hend => ?_, hnone⟩
      · have := hquiet.pos
        omega
      · exact (Nat.mul_le_mul_left _ (Nat.sub_le _ _)).trans_lt (hquiet.before_end time hend)
    have hlater : time ≤ last :=
      hgreatest ⟨htime, hwindow.1.trans (Nat.mul_le_mul_left _ (Nat.sub_le _ _))⟩
    have hafter := hwindow.2
    have := hquiet.pos
    simp only [interval] at *
    omega
  · cases hidle.symm.trans hending

end ClosesInTime

/-- Every session tells its owner once that it is over, and closes in time: as idle at the first look
whose window before the end of the output brings no token, and otherwise when the output ends or
fails. So it is never idle when every window brings a token, and if it is idle then it closes between
one and two intervals after the last token. -/
theorem Session.closesInTime (reactions : List Reaction) (intake : Intake)
    (steps : List StreamStep) :
    let closing := ({ reactions, intake } : Session).run steps
    let times := tokenTimes [] 0 steps
    let finish := endTime 0 steps
    closing.notices = 1 ∧ ClosesInTime times finish closing ∧
      ((∀ look, 0 < look → (∀ time ∈ finish, interval * look < time) →
        ∃ time ∈ times, InWindow look time) → closing.ending ≠ .idle) ∧
      ∀ last, closing.ending = .idle →
        IsGreatest {time | time ∈ times ∧ time ≤ closing.time} last →
        last + interval ≤ closing.time ∧ closing.time ≤ last + 2 * interval := by
  intro closing times finish
  have hcloses : ClosesInTime times finish closing :=
    (tracked_start reactions intake).closesInTime_run steps
  exact ⟨notices_run, hcloses, hcloses.ne_idle, fun _ hidle => hcloses.idle_bounds hidle⟩

end ClusterSteward.Prompt
