import Mathlib.Data.Nat.Find
import Mathlib.Order.Lattice

/-! # Timers

The class `Timer` of `main.py`, which uses the one timer and the one handler for SIGALRM that a process has, and
the loops of `await_exists` and `await_port`.  Code that uses timers is a program of pieces of work that take some
time; time is counted in ticks, the first `period` of the loops, and the bookkeeping takes none.

The result of `elapsed_time` is left out, and platforms without SIGALRM.
-/

namespace Bsord.Plano.Timers

/-! ## Programs -/

/-- The handler for SIGALRM. -/
inductive Handler where
  | default
  | raiseTimeout (message : Option String)
deriving DecidableEq

/-- The state of the real timer of the process, with the ticks left; it is not set when there are none. -/
structure Alarm where
  itimer : Nat
  handler : Handler
deriving DecidableEq

inductive Exception where
  | planoTimeout (message : Option String)
  | planoError
  | other
  /-- No exception: SIGALRM ends the process. -/
  | killed
deriving DecidableEq

def Handler.raises : Handler → Exception
  | default => .killed
  | raiseTimeout message => .planoTimeout message

structure Timer where
  timeout : Option Nat
  timeoutMessage : Option String

namespace Timer

def start (timer : Timer) (alarm : Alarm) : Alarm :=
  match timer.timeout with
  | some timeout => ⟨timeout, .raiseTimeout timer.timeoutMessage⟩
  | none => alarm

/-- `previous` has `prev_handler` and `prev_timeout`. -/
def stop (timer : Timer) (previous alarm : Alarm) : Alarm :=
  match timer.timeout with
  | some _ => previous
  | none => alarm

end Timer

inductive Program where
  | work (ticks : Nat)
  | raise (exception : Exception)
  | seq (first second : Program)
  /-- `try` with clauses for some exceptions. -/
  | attempt (body : Program) (catches : Exception → Bool) (handler : Exception → Program)
  | within (timer : Timer) (body : Program)

/-- What has come of a program. -/
structure Ran where
  /-- The ticks outside of the timers in the program. -/
  own : Nat
  /-- The ticks in timers in the program that have a timeout. -/
  nested : Nat
  raised : Option Exception
  alarm : Alarm
deriving DecidableEq

def Ran.elapsed (ran : Ran) : Nat := ran.own + ran.nested

/-- What has come of a program and of what goes on after it, if anything does when it has ended so. -/
def Ran.follow (ran : Ran) (next : Option Exception → Option (Alarm → Ran)) : Ran :=
  match next ran.raised with
  | some next => { next ran.alarm with
      own := ran.own + (next ran.alarm).own
      nested := ran.nested + (next ran.alarm).nested }
  | none => ran

/-- The clauses that go on after the body of a `try`. -/
def caughtBy (catches : Exception → Bool) : Option Exception → Option Exception
  | some exception => if exception ≠ .killed ∧ catches exception then some exception else none
  | none => none

def Program.run : Program → Alarm → Ran
  | work ticks, alarm =>
    if alarm.itimer = 0 ∨ ticks < alarm.itimer then ⟨ticks, 0, none, { alarm with itimer := alarm.itimer - ticks }⟩
    else ⟨alarm.itimer, 0, some alarm.handler.raises, { alarm with itimer := 0 }⟩
  | raise exception, alarm => ⟨0, 0, some exception, alarm⟩
  | seq first second, alarm => (first.run alarm).follow fun raised => if raised = none then some second.run else none
  | attempt body catches handler, alarm =>
    (body.run alarm).follow fun raised => (caughtBy catches raised).map fun exception => (handler exception).run
  | within timer body, alarm =>
    let ran := body.run (timer.start alarm)
    { own := if timer.timeout = none then ran.own else 0
      nested := if timer.timeout = none then ran.nested else ran.elapsed
      raised := ran.raised
      alarm := timer.stop alarm ran.alarm }

/-! ## What a timer counts -/

/-- The timer of the process is not set, and its handler raises the timeout. -/
def unset (message : Option String) : Alarm := ⟨0, .raiseTimeout message⟩

/-- The program with `raise PlanoTimeout(message)` at the place where it has spent some ticks outside of the timers
    in it. -/
def Program.cut (message : Option String) : Program → Nat → Program
  | work ticks, left => if ticks < left then work ticks else seq (work left) (raise (.planoTimeout message))
  | raise exception, _ => raise exception
  | seq first second, left =>
    let own := (first.run (unset message)).own
    if own < left then seq first (second.cut message (left - own)) else seq (first.cut message left) second
  | attempt body catches handler, left =>
    let own := (body.run (unset message)).own
    if own < left then attempt body catches fun exception => (handler exception).cut message (left - own)
    else attempt (body.cut message left) catches handler
  | within timer body, left => if timer.timeout = none then within timer (body.cut message left) else within timer body

/-- No `try` of the program around code outside of the timers in it catches the timeout. -/
def Program.Lets (message : Option String) : Program → Prop
  | work _ | raise _ => True
  | seq first second => first.Lets message ∧ second.Lets message
  | attempt body catches handler =>
    body.Lets message ∧ catches (.planoTimeout message) = false ∧ ∀ exception, (handler exception).Lets message
  | within timer body => timer.timeout = none → body.Lets message

/-- What comes of the program under a timer with some ticks left. -/
structure Counts (message : Option String) (program : Program) : Prop where
  kept : (program.run (unset message)).alarm = unset message
  early : ∀ left, (program.run (unset message)).own < left →
    program.run ⟨left, .raiseTimeout message⟩ = { program.run (unset message) with
      alarm := ⟨left - (program.run (unset message)).own, .raiseTimeout message⟩ }
  late : ∀ left, 0 < left → left ≤ (program.run (unset message)).own →
    program.run ⟨left, .raiseTimeout message⟩ = (program.cut message left).run (unset message)

variable {message : Option String}

theorem counts_work (ticks : Nat) : Counts message (.work ticks) where
  kept := by simp [Program.run, unset]
  early left within := by
    have within : ticks < left := by simpa [Program.run, unset] using within
    simp [Program.run, unset, within]
  late left positive out := by
    have out : left ≤ ticks := by simpa [Program.run, unset] using out
    have beyond : ¬ticks < left := Nat.not_lt.mpr out
    simp [Program.run, Program.cut, unset, beyond, Nat.ne_of_gt positive, Handler.raises, Ran.follow]

/-- The program is the first one and, when that has ended so, what goes on after it. -/
structure Follows (message : Option String) (program first : Program) (next : Option Exception → Option Program) :
    Prop where
  run : ∀ alarm, program.run alarm = (first.run alarm).follow fun raised => (next raised).map Program.run
  early : ∀ left, (first.run (unset message)).own < left → (program.cut message left).run (unset message) =
    (first.run (unset message)).follow fun raised =>
      (next raised).map fun program => (program.cut message (left - (first.run (unset message)).own)).run
  late : ∀ left, left ≤ (first.run (unset message)).own → (program.cut message left).run (unset message) =
    ((first.cut message left).run (unset message)).follow fun raised => (next raised).map Program.run

theorem follows_seq (first second : Program) :
    Follows message (.seq first second) first fun raised => if raised = none then some second else none where
  run alarm := by
    simp only [Program.run, apply_ite (Option.map Program.run), Option.map_some, Option.map_none]
  early left within := by
    simp only [Program.cut, within, if_true, Program.run, apply_ite (Option.map _), Option.map_some, Option.map_none]
  late left out := by
    simp only [Program.cut, Nat.not_lt.mpr out, if_false, Program.run, apply_ite (Option.map Program.run),
      Option.map_some, Option.map_none]

theorem follows_attempt (body : Program) (catches : Exception → Bool) (handler : Exception → Program) :
    Follows message (.attempt body catches handler) body fun raised => (caughtBy catches raised).map handler where
  run alarm := by
    simp only [Program.run, Option.map_map, Function.comp_def]
  early left within := by
    simp only [Program.cut, within, if_true, Program.run, Option.map_map, Function.comp_def]
  late left out := by
    simp only [Program.cut, Nat.not_lt.mpr out, if_false, Program.run, Option.map_map, Function.comp_def]

variable {program first : Program} {next : Option Exception → Option Program}

theorem Follows.counts (follows : Follows message program first next) (counts : Counts message first)
    (countsNext : ∀ raised program, next raised = some program → Counts message program) :
    Counts message program := by
  have kept := counts.kept
  cases goes : next (first.run (unset message)).raised with
  | none =>
    have free : program.run (unset message) = first.run (unset message) := by
      simp [follows.run, Ran.follow, goes]
    refine ⟨by rw [free, kept], fun left within => ?_, fun left positive out => ?_⟩
    · rw [free] at within ⊢
      simp [follows.run, counts.early left within, Ran.follow, goes]
    · rw [free] at out
      rw [follows.run, follows.late left out, counts.late left positive out]
  | some second =>
    have countsNext := countsNext _ _ goes
    have free : program.run (unset message) = { second.run (unset message) with
        own := (first.run (unset message)).own + (second.run (unset message)).own
        nested := (first.run (unset message)).nested + (second.run (unset message)).nested } := by
      simp [follows.run, Ran.follow, goes, kept]
    refine ⟨by rw [free, countsNext.kept], fun left within => ?_, fun left positive out => ?_⟩
    · -- what goes on runs under what the first part has left of the ticks
      rw [free] at within ⊢
      have within : (first.run (unset message)).own + (second.run (unset message)).own < left := within
      rw [follows.run, counts.early left (by omega)]
      simp only [Ran.follow, goes, Option.map_some]
      rw [countsNext.early _ (by omega)]
      simp [Nat.sub_sub]
    · by_cases within : (first.run (unset message)).own < left
      · have out : left ≤ (first.run (unset message)).own + (second.run (unset message)).own := by
          rw [free] at out
          exact out
        rw [follows.run, follows.early left within, counts.early left within]
        simp only [Ran.follow, goes, Option.map_some, kept]
        rw [countsNext.late _ (by omega) (by omega)]
      · have out := Nat.not_lt.mp within
        rw [follows.run, follows.late left out, counts.late left positive out]

theorem counts_run (program : Program) : Counts message program := by
  induction program with
  | work ticks => exact counts_work ticks
  | raise exception =>
    exact ⟨rfl, fun left within => rfl, fun left positive out => absurd positive (Nat.not_lt.mpr out)⟩
  | seq first second ihFirst ihSecond =>
    refine (follows_seq first second).counts ihFirst fun raised program goes => ?_
    obtain rfl : second = program := by simpa using (Option.ite_none_right_eq_some.mp goes).2
    exact ihSecond
  | attempt body catches handler ihBody ihHandler =>
    refine (follows_attempt body catches handler).counts ihBody fun raised program goes => ?_
    obtain ⟨exception, -, rfl⟩ := Option.map_eq_some_iff.mp goes
    exact ihHandler exception
  | within timer body ih =>
    obtain ⟨timeout, timeoutMessage⟩ := timer
    cases timeout with
    | none => exact ⟨ih.kept, ih.early, ih.late⟩
    | some timeout =>
      exact ⟨rfl, fun left within => rfl, fun left positive out => absurd positive (Nat.not_lt.mpr out)⟩

/-- Where the timeout is raised after some ticks, the program ends with it. -/
def Ends (message : Option String) (program : Program) : Prop :=
  ∀ left, 0 < left → left ≤ (program.run (unset message)).own →
    ∃ nested ≤ (program.run (unset message)).nested,
      (program.cut message left).run (unset message) = ⟨left, nested, some (.planoTimeout message), unset message⟩

theorem Follows.ends (follows : Follows message program first next) (ends : Ends message first)
    (uncaught : next (some (.planoTimeout message)) = none)
    (endsNext : ∀ raised program, next raised = some program → Ends message program) : Ends message program := by
  intro left positive out
  have kept : (first.run (unset message)).alarm = unset message := (counts_run first).kept
  rw [follows.run] at out ⊢
  by_cases within : (first.run (unset message)).own < left
  · rw [follows.early left within]
    cases goes : next (first.run (unset message)).raised with
    | none =>
      simp only [Ran.follow, goes, Option.map_none] at out
      omega
    | some second =>
      simp only [Ran.follow, goes, Option.map_some, kept] at out ⊢
      obtain ⟨nested, less, ran⟩ :=
        endsNext _ _ goes (left - (first.run (unset message)).own) (by omega) (by omega)
      refine ⟨_, Nat.add_le_add_left less _, ?_⟩
      simp [ran, Nat.add_sub_cancel' (Nat.le_of_lt within)]
  · obtain ⟨nested, less, ran⟩ := ends left positive (Nat.not_lt.mp within)
    rw [follows.late left (Nat.not_lt.mp within), ran]
    refine ⟨nested, ?_, by simp [Ran.follow, uncaught]⟩
    unfold Ran.follow
    split
    · exact Nat.le_add_right_of_le less
    · exact less

theorem ends_of_lets (program : Program) (lets : program.Lets message) : Ends message program := by
  induction program with
  | work ticks =>
    intro left positive out
    have out : left ≤ ticks := by simpa [Program.run, unset] using out
    exact ⟨0, Nat.zero_le _, by simp [Program.cut, Program.run, Nat.not_lt.mpr out, unset, Ran.follow]⟩
  | raise exception => exact fun left positive out => absurd positive (Nat.not_lt.mpr out)
  | seq first second ihFirst ihSecond =>
    refine (follows_seq first second).ends (ihFirst lets.1) rfl fun raised program goes => ?_
    obtain rfl : second = program := by simpa using (Option.ite_none_right_eq_some.mp goes).2
    exact ihSecond lets.2
  | attempt body catches handler ihBody ihHandler =>
    have uncaught : caughtBy catches (some (.planoTimeout message)) = none := by simp [caughtBy, lets.2.1]
    refine (follows_attempt body catches handler).ends (ihBody lets.1) (by rw [uncaught]; rfl)
      fun raised program goes => ?_
    obtain ⟨exception, -, rfl⟩ := Option.map_eq_some_iff.mp goes
    exact ihHandler exception (lets.2.2 exception)
  | within timer body ih =>
    obtain ⟨timeout, timeoutMessage⟩ := timer
    cases timeout with
    | none =>
      intro left positive out
      obtain ⟨nested, less, ran⟩ := ih (lets rfl) left positive out
      exact ⟨nested, less, by simp [Program.cut, Program.run, Timer.start, Timer.stop, ran]⟩
    | some timeout => exact fun left positive out => absurd positive (Nat.not_lt.mpr out)

/-- The timeout of a timer is raised in its body when the ticks that this spends outside of the timers in it are used
    up, and never if it is 0.  Unless a `try` of the body catches it, the timer ends with it then, and the ticks in the
    timers inside come on top.  Whatever timer there is outside is as before. -/
theorem timer_counts (timeout : Nat) (message : Option String) (body : Program) (alarm : Alarm) :
    let free := body.run (unset message)
    let cut := (body.cut message timeout).run (unset message)
    let ran := (Program.within ⟨some timeout, message⟩ body).run alarm
    ran.alarm = alarm ∧ ran.own = 0 ∧
      if timeout = 0 ∨ free.own < timeout then ran.raised = free.raised ∧ ran.elapsed = free.elapsed
      else ran.raised = cut.raised ∧ ran.elapsed = cut.elapsed ∧
        (body.Lets message → ran.raised = some (.planoTimeout message) ∧
          ∃ nested ≤ free.nested, ran.elapsed = timeout + nested) := by
  intro free cut ran
  refine ⟨rfl, rfl, ?_⟩
  have counts : Counts message body := counts_run body
  have elapsed : ran.elapsed = (body.run ⟨timeout, .raiseTimeout message⟩).elapsed := Nat.zero_add _
  have raised : ran.raised = (body.run ⟨timeout, .raiseTimeout message⟩).raised := rfl
  rw [elapsed, raised]
  by_cases zero : timeout = 0
  · rw [if_pos (.inl zero), zero]
    exact ⟨rfl, rfl⟩
  · by_cases within : free.own < timeout
    · rw [if_pos (.inr within), counts.early timeout within]
      exact ⟨rfl, rfl⟩
    · have positive : 0 < timeout := Nat.pos_of_ne_zero zero
      have out : timeout ≤ free.own := Nat.not_lt.mp within
      rw [if_neg (not_or.mpr ⟨zero, within⟩), counts.late timeout positive out]
      refine ⟨rfl, rfl, fun lets => ?_⟩
      obtain ⟨nested, less, ran⟩ := ends_of_lets body lets timeout positive out
      rw [ran]
      exact ⟨rfl, nested, less, rfl⟩

/-- A test of 500 ticks passes with a timeout of 300, because it waits for ports in most of them. -/
theorem timer_counts_waiting :
    let await (ticks : Nat) : Program := .within ⟨some 250, some "Timed out"⟩ (.work ticks)
    let test : Program := .seq (await 200) (.seq (.work 100) (await 200))
    let ran := (Program.within ⟨some 300, none⟩ test).run ⟨0, .default⟩
    (ran.raised = none ∧ ran.elapsed = 500) ∧ ran.alarm = ⟨0, .default⟩ := by
  intro await test ran
  have counts := timer_counts 300 none test ⟨0, .default⟩
  exact ⟨counts.2.2, counts.1⟩

/-- `except Exception` in the body takes the timeout, and the rest of the body has none. -/
example :
    let body : Program := .seq (.attempt (.work 400) (fun _ => true) fun _ => .work 0) (.work 900)
    let ran := (Program.within ⟨some 300, none⟩ body).run ⟨0, .default⟩
    ran.raised = none ∧ ran.elapsed = 1200 := by
  decide +kernel

/-! ## Waiting -/

/-- The loop of `await_exists` and `await_port`, with the ticks at which what it waits for is there. -/
def awaitLoop (present : Nat → Bool) : (fuel now period : Nat) → Alarm → Option (Nat × Option Exception)
  | 0, _, _, _ => none
  | fuel + 1, now, period, alarm =>
    if present now then some (now, none)
    else
      let slept := (Program.work period).run alarm
      match slept.raised with
      | some exception => some (now + slept.own, some exception)
      | none => awaitLoop present fuel (now + slept.own) (min 32 (period * 2)) slept.alarm

/-- The call, with the ticks that it takes.  The first period is a 32nd of a second. -/
def awaitPresent (present : Nat → Bool) (fuel : Nat) (timer : Timer) (alarm : Alarm) :
    Option (Nat × Option Exception) :=
  awaitLoop present fuel 0 1 (timer.start alarm)

def awaitExists (exists_ : Nat → Bool) (fuel : Nat) (path : String) (timeout : Option Nat) (alarm : Alarm) :
    Option (Nat × Option Exception) :=
  awaitPresent exists_ fuel ⟨timeout, some ("Timed out waiting for path " ++ path ++ " to exist")⟩ alarm

def awaitPort (reachable : Nat → Bool) (fuel port : Nat) (timeout : Option Nat) (alarm : Alarm) :
    Option (Nat × Option Exception) :=
  awaitPresent reachable fuel ⟨timeout, some ("Timed out waiting for port " ++ toString port ++ " to open")⟩ alarm

/-- The period after the check with a number. -/
def period : Nat → Nat
  | 0 => 1
  | n + 1 => min 32 (period n * 2)

/-- The ticks of the checks of the loop. -/
def checkTime : Nat → Nat
  | 0 => 0
  | n + 1 => checkTime n + period n

/-- The call returns at the first check that finds what is awaited, or the timeout comes before. -/
def Awaited (present : Nat → Bool) (timeout : Nat) (message : Option String) (result : Nat × Option Exception) :
    Prop :=
  (∃ n, checkTime n < timeout ∧ present (checkTime n) = true ∧ (∀ m < n, present (checkTime m) = false) ∧
    result = (checkTime n, none)) ∨
  ((∀ n, checkTime n < timeout → present (checkTime n) = false) ∧
    result = (timeout, some (.planoTimeout message)))

variable {present : Nat → Bool} {timeout : Nat}

/-- The period grows with the time that has passed, up to a second. -/
theorem period_eq (n : Nat) : period n = min 32 (checkTime n + 1) := by
  induction n with
  | zero => rfl
  | succ n ih =>
    rw [period, checkTime, ih]
    omega

theorem checkTime_lt (n : Nat) : checkTime n < checkTime (n + 1) := by
  rw [checkTime, period_eq]
  omega

theorem checkTime_mono {m n : Nat} (le : m ≤ n) : checkTime m ≤ checkTime n := by
  induction le with
  | refl => exact Nat.le_refl _
  | step _ ih => exact Nat.le_trans ih (Nat.le_of_lt (checkTime_lt _))

theorem le_checkTime (n : Nat) : n ≤ checkTime n := by
  induction n with
  | zero => exact Nat.zero_le _
  | succ n ih => exact Nat.lt_of_le_of_lt ih (checkTime_lt n)

theorem awaitLoop_sleeps (fuel n : Nat) (absent : present (checkTime n) = false) (before : checkTime n < timeout) :
    awaitLoop present (fuel + 1) (checkTime n) (period n) ⟨timeout - checkTime n, .raiseTimeout message⟩ =
      if checkTime (n + 1) < timeout then
        awaitLoop present fuel (checkTime (n + 1)) (period (n + 1)) ⟨timeout - checkTime (n + 1), .raiseTimeout message⟩
      else some (timeout, some (.planoTimeout message)) := by
  have left : timeout - checkTime n ≠ 0 := by omega
  rw [awaitLoop, absent, checkTime]
  by_cases sleeps : checkTime n + period n < timeout
  · have within : period n < timeout - checkTime n := by omega
    simp only [Program.run, within, or_true, if_true, sleeps, period, Nat.sub_sub, Bool.false_eq_true, if_false]
  · have out : ¬period n < timeout - checkTime n := by omega
    simp only [Program.run, left, out, or_self, if_false, sleeps, Handler.raises, Bool.false_eq_true,
      Nat.add_sub_cancel' (Nat.le_of_lt before)]

theorem awaitLoop_awaited (fuel n : Nat) (before : checkTime n < timeout)
    (absent : ∀ m < n, present (checkTime m) = false) (enough : timeout - checkTime n < fuel) :
    ∃ result, awaitLoop present fuel (checkTime n) (period n) ⟨timeout - checkTime n, .raiseTimeout message⟩ =
      some result ∧ Awaited present timeout message result := by
  induction fuel generalizing n with
  | zero => exact absurd enough (Nat.not_lt_zero _)
  | succ fuel ih =>
    cases found : present (checkTime n) with
    | true =>
      refine ⟨(checkTime n, none), ?_, .inl ⟨n, before, found, absent, rfl⟩⟩
      rw [awaitLoop, found, if_pos rfl]
    | false =>
      have absent : ∀ m < n + 1, present (checkTime m) = false := by
        intro m earlier
        rcases Nat.lt_succ_iff_lt_or_eq.mp earlier with earlier | rfl
        · exact absent m earlier
        · exact found
      rw [awaitLoop_sleeps fuel n found before]
      by_cases sleeps : checkTime (n + 1) < timeout
      · rw [if_pos sleeps]
        have later := checkTime_lt n
        exact ih (n + 1) sleeps absent (by omega)
      · rw [if_neg sleeps]
        refine ⟨_, rfl, .inr ⟨fun m early => absent m ?_, rfl⟩⟩
        by_contra beyond
        exact sleeps (Nat.lt_of_le_of_lt (checkTime_mono (Nat.not_lt.mp beyond)) early)

/-- What is there from some tick on is found by the first check from then on, within a second and twice the time. -/
theorem checkTime_finds (first : Nat) :
    ∃ n, first ≤ checkTime n ∧ (∀ m < n, checkTime m < first) ∧ checkTime n ≤ 2 * first ∧ checkTime n < first + 32 := by
  obtain ⟨n, late, least⟩ : ∃ n, first ≤ checkTime n ∧ ∀ m < n, checkTime m < first := by
    have reached : ∃ n, first ≤ checkTime n := ⟨first, le_checkTime first⟩
    exact ⟨Nat.find reached, Nat.find_spec reached, fun m earlier => Nat.not_le.mp (Nat.find_min reached earlier)⟩
  refine ⟨n, late, least, ?_⟩
  cases n with
  | zero => simp [checkTime]
  | succ n =>
    have before := least n (Nat.lt_succ_self n)
    rw [checkTime, period_eq]
    omega

/-- There is one result, when one check is the first to find what is awaited. -/
theorem Awaited.eq {result : Nat × Option Exception} (awaited : Awaited present timeout message result) {n : Nat}
    (there : present (checkTime n) = true) (absent : ∀ m < n, present (checkTime m) = false) :
    result = if checkTime n < timeout then (checkTime n, none) else (timeout, some (.planoTimeout message)) := by
  rcases awaited with ⟨m, early, found, none, rfl⟩ | ⟨none, rfl⟩
  · have same : m = n := by
      rcases Nat.lt_trichotomy m n with earlier | same | later
      · rw [absent m earlier] at found
        cases found
      · exact same
      · rw [none n later] at there
        cases there
    rw [← same, if_pos early]
  · rw [if_neg]
    intro early
    rw [none n early] at there
    cases there

end Bsord.Plano.Timers
