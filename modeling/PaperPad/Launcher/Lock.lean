import Mathlib.Logic.Function.Basic
import PaperPad.Support.Transition

/-!
# Launcher — Lock

The lock of the launcher script, `acquire_lock` and `release_lock` of `bin/run.sh`: a directory
with the pid of its owner in `launcher.pid`.  Any number of launchers run it at once, each of
their commands one step; a launcher may end at any of them.

A launcher that finds a dead owner removes its directory and makes a new one, and looks at nothing
in between.  `acquire_exclusive`: at most one launcher holds the lock as long as no takeover
removes the directory of a live launcher (`Undisturbed`).  `acquire_not_exclusive`: two launchers
that find the same dead owner both get the lock.
-/

namespace PaperPad.Launcher

open Transition

/-! ### The directory -/

/-- The lock directory, if it exists, and the text of `launcher.pid` in it, if there is one. -/
abbrev Lock := Option (Option (List Char))

/-- `mkdir "$LOCK_DIR"`. -/
def mkdir : Lock → Option Lock
  | none => some (some none)
  | some _ => none

/-- `rmdir "$LOCK_DIR"`; only an empty directory is removed. -/
def rmdir : Lock → Option Lock
  | some none => some none
  | _ => none

/-- `rm -f "$LOCK_OWNER_FILE"`. -/
def rmOwner (lock : Lock) : Lock := lock.map fun _ => none

/-- A command that is not allowed fails for a reason of its own. -/
def attempt (allowed : Bool) (outcome : Option Lock) : Option Lock :=
  if allowed then outcome else none

/-- `printf '%s\n' "$$"`. -/
def ownerText (pid : Nat) : List Char := Nat.toDigits 10 pid ++ ['\n']

/-- `sed -n '1p' "$LOCK_OWNER_FILE" | tr -d ' \t\r\n'`. -/
def readOwner : Lock → List Char
  | some (some text) =>
      (text.takeWhile (· ≠ '\n')).filter fun c => c ≠ ' ' ∧ c ≠ '\t' ∧ c ≠ '\r' ∧ c ≠ '\n'
  | _ => []

/-- The complement of `''|*[!0-9]*`. -/
def isPid (owner : List Char) : Bool := !owner.isEmpty && owner.all Char.isDigit

/-- The number an owner file spells. -/
def pidOf (owner : List Char) : Nat := owner.foldl (fun n c => 10 * n + (c.toNat - '0'.toNat)) 0

/-! ### The launchers -/

/-- The command a launcher is at. -/
inductive Pc where
  | absent
  | mkdirFirst
  | readOwner
  | probe (owner : List Char)
  | removeOwner
  | removeDir
  | mkdirAgain
  | writeOwner
  | undo
  | held
  | releaseDir
  | finished
  deriving DecidableEq

/-- How `printf … > "$LOCK_OWNER_FILE"` ends. -/
inductive WriteOutcome where
  | written
  | notOpened
  | partly (length : Nat)
  deriving DecidableEq

/-- A step of a launcher. -/
inductive Command where
  | start
  | mkdir (allowed : Bool)
  | read
  | probe (alive : Bool)
  | rm (allowed : Bool)
  | rmdir (allowed : Bool)
  | write (outcome : WriteOutcome)
  | exit
  deriving DecidableEq

/-- The lock, and where each launcher is. -/
structure Launchers where
  lock : Lock
  pc : Nat → Pc

/-- Nobody runs; what the lock holds was left behind. -/
def Launchers.initial (lock : Lock) : Launchers where
  lock
  pc := fun _ => .absent

/-- The launcher `pid` goes to `pc`. -/
def Launchers.goto (s : Launchers) (pid : Nat) (pc : Pc) : Launchers :=
  { s with pc := Function.update s.pc pid pc }

/-- The same launchers with another lock. -/
def Launchers.withLock (s : Launchers) (lock : Lock) : Launchers := { s with lock }

/-- A command of `acquire_lock`. -/
def acquireLock (s : Launchers) (pid : Nat) (command : Command) : Option Launchers :=
  match s.pc pid, command with
  | .mkdirFirst, .mkdir allowed =>
      match attempt allowed (mkdir s.lock) with
      | some lock => some ((s.withLock lock).goto pid .writeOwner)
      | none => some (s.goto pid .readOwner)
  | .writeOwner, .write .written =>
      if s.lock.isNone then none
      else some ((s.withLock (some (some (ownerText pid)))).goto pid .held)
  | .writeOwner, .write (.partly length) =>
      if s.lock.isNone then none
      else some ((s.withLock (some (some ((ownerText pid).take length)))).goto pid .undo)
  | .writeOwner, .write .notOpened => some (s.goto pid .undo)
  | .undo, .rmdir allowed =>
      some ((s.withLock ((attempt allowed (rmdir s.lock)).getD s.lock)).goto pid .finished)
  | .readOwner, .read =>
      if isPid (readOwner s.lock) then some (s.goto pid (.probe (readOwner s.lock)))
      else some (s.goto pid .finished)
  | .probe owner, .probe alive =>
      if alive then some (s.goto pid .finished)
      -- a launcher that runs answers `kill -0`
      else if s.pc (pidOf owner) = .absent then some (s.goto pid .removeOwner) else none
  | .removeOwner, .rm allowed =>
      some ((s.withLock (if allowed then rmOwner s.lock else s.lock)).goto pid .removeDir)
  | .removeDir, .rmdir allowed =>
      match attempt allowed (rmdir s.lock) with
      | some lock => some ((s.withLock lock).goto pid .mkdirAgain)
      | none => some (s.goto pid .finished)
  | .mkdirAgain, .mkdir allowed =>
      match attempt allowed (mkdir s.lock) with
      | some lock => some ((s.withLock lock).goto pid .writeOwner)
      | none => some (s.goto pid .finished)
  | _, _ => none

/-- A command of `release_lock`. -/
def releaseLock (s : Launchers) (pid : Nat) (command : Command) : Option Launchers :=
  match s.pc pid, command with
  | .held, .rm allowed =>
      some ((s.withLock (if allowed then rmOwner s.lock else s.lock)).goto pid .releaseDir)
  | .releaseDir, .rmdir allowed =>
      some ((s.withLock ((attempt allowed (rmdir s.lock)).getD s.lock)).goto pid .finished)
  | _, _ => none

/-- One step of one launcher. -/
def launcherStep (s : Launchers) (e : Nat × Command) : Option Launchers :=
  match s.pc e.1, e.2 with
  | .absent, .start => some (s.goto e.1 .mkdirFirst)
  | .absent, _ => none
  | _, .exit => some (s.goto e.1 .absent)
  | .held, command | .releaseDir, command => releaseLock s e.1 command
  | _, command => acquireLock s e.1 command

/-- At most one launcher is between a successful `acquire_lock` and its `release_lock`. -/
def Exclusive (s : Launchers) : Prop := ∀ p q, s.pc p = .held → s.pc q = .held → p = q

/-! ### What a step does to the directory -/

/-- The launcher is between a successful `mkdir` and its own `rmdir`. -/
def Pc.Owns : Pc → Bool
  | .writeOwner | .undo | .held | .releaseDir => true
  | _ => false

/-- The four things a step can do to the directory and its owner. -/
inductive LockMove (s : Launchers) : Nat × Command → Launchers → Prop where
  | keeps {pid : Nat} {command : Command} {pc : Pc} {lock : Lock}
      (howns : pc.Owns → (s.pc pid).Owns) (hlock : s.lock ≠ none → lock ≠ none) :
      LockMove s (pid, command) ((s.withLock lock).goto pid pc)
  | claims {pid : Nat} {command : Command} (hfree : s.lock = none) :
      LockMove s (pid, command) ((s.withLock (some none)).goto pid .writeOwner)
  | drops {pid : Nat} {command : Command} {lock : Lock} (howned : (s.pc pid).Owns) :
      LockMove s (pid, command) ((s.withLock lock).goto pid .finished)
  | takesOver {pid : Nat} (hpc : s.pc pid = .removeDir) (hempty : s.lock = some none) :
      LockMove s (pid, .rmdir true) ((s.withLock none).goto pid .mkdirAgain)

/-- The folder was not there, and is empty now. -/
theorem mkdir_eq_some {allowed : Bool} {lock made : Lock}
    (h : attempt allowed (mkdir lock) = some made) : lock = none ∧ made = some none := by
  cases allowed with
  | false => cases h
  | true =>
      cases lock with
      | none => cases h; exact ⟨rfl, rfl⟩
      | some file => cases h

/-- The folder was empty, and is gone. -/
theorem rmdir_eq_some {allowed : Bool} {lock removed : Lock}
    (h : attempt allowed (rmdir lock) = some removed) :
    allowed = true ∧ lock = some none ∧ removed = none := by
  cases allowed with
  | false => cases h
  | true =>
      rcases lock with _ | _ | text
      · cases h
      · cases h; exact ⟨rfl, rfl, rfl⟩
      · cases h

/-- Removing the owner leaves the folder. -/
theorem rm_ne_none {allowed : Bool} {lock : Lock} (h : lock ≠ none) :
    (if allowed then rmOwner lock else lock) ≠ none := by
  cases allowed with
  | false => exact h
  | true =>
      cases lock with
      | none => exact absurd rfl h
      | some file => exact Option.some_ne_none _

section Moves

variable {s t : Launchers} {pid : Nat} {command : Command}

/-- A step that leaves the directory alone. -/
theorem LockMove.goes {pc : Pc} (howns : pc.Owns → (s.pc pid).Owns) :
    LockMove s (pid, command) (s.goto pid pc) := by
  have h : LockMove s (pid, command) ((s.withLock s.lock).goto pid pc) := .keeps howns id
  exact h

/-- What each command of `acquire_lock` does, in its order. -/
theorem acquireLock_move (k : acquireLock s pid command = some t) :
    LockMove s (pid, command) t := by
  simp only [acquireLock] at k
  split at k
  · -- the first `mkdir`
    split at k
    · next h =>
        obtain ⟨hfree, rfl⟩ := mkdir_eq_some h
        cases k
        exact .claims hfree
    · cases k
      exact .goes nofun
  · -- the owner is written
    next hpc =>
      split at k
      · cases k
      · cases k
        exact .keeps (fun _ => by rw [hpc]; rfl) fun _ => Option.some_ne_none _
  · -- a part of it is
    next hpc =>
      split at k
      · cases k
      · cases k
        exact .keeps (fun _ => by rw [hpc]; rfl) fun _ => Option.some_ne_none _
  · -- nothing is
    next hpc =>
      cases k
      exact .goes fun _ => by rw [hpc]; rfl
  · -- so its own directory goes
    next hpc =>
      cases k
      exact .drops (by rw [hpc]; rfl)
  · -- the owner is read
    split at k <;> cases k <;> exact .goes nofun
  · -- and probed
    split at k
    · cases k
      exact .goes nofun
    · split at k
      · cases k
        exact .goes nofun
      · cases k
  · -- the takeover: `rm`, `rmdir`, `mkdir`
    cases k
    exact .keeps nofun rm_ne_none
  · next hpc =>
      split at k
      · next h =>
          obtain ⟨rfl, hempty, rfl⟩ := rmdir_eq_some h
          cases k
          exact .takesOver hpc hempty
      · cases k
        exact .goes nofun
  · split at k
    · next h =>
        obtain ⟨hfree, rfl⟩ := mkdir_eq_some h
        cases k
        exact .claims hfree
    · cases k
      exact .goes nofun
  · cases k

/-- A step of the release is one of the moves. -/
theorem releaseLock_move (k : releaseLock s pid command = some t) :
    LockMove s (pid, command) t := by
  simp only [releaseLock] at k
  split at k
  · next hpc =>
      cases k
      exact .keeps (fun _ => by rw [hpc]; rfl) rm_ne_none
  · next hpc =>
      cases k
      exact .drops (by rw [hpc]; rfl)
  · cases k

/-- A step is one of the moves. -/
theorem launcherStep_move {e : Nat × Command} (k : launcherStep s e = some t) :
    LockMove s e t := by
  simp only [launcherStep] at k
  split at k
  · cases k
    exact .goes nofun
  · cases k
  · cases k
    exact .goes nofun
  · exact releaseLock_move k
  · exact releaseLock_move k
  · exact acquireLock_move k

end Moves

/-! ### Exclusion -/

/-- The condition on a step: a takeover removes no directory of a live launcher. -/
def Undisturbed (s : Launchers) (e : Nat × Command) : Prop :=
  e.2 = .rmdir true → s.pc e.1 = .removeDir → s.lock = some none → ∀ q, ¬ (s.pc q).Owns

/-- The directory has at most one owner, and is there while it has one. -/
structure Owned (s : Launchers) : Prop where
  unique : ∀ p q, (s.pc p).Owns → (s.pc q).Owns → p = q
  present : ∀ p, (s.pc p).Owns → s.lock ≠ none

theorem goto_pc (s : Launchers) (pid : Nat) (pc : Pc) :
    (s.goto pid pc).pc = Function.update s.pc pid pc := rfl

/-- A step of one launcher leaves the others where they are. -/
theorem launcherStep_frame {s t : Launchers} {e : Nat × Command}
    (k : launcherStep s e = some t) {q : Nat} (hq : q ≠ e.1) : t.pc q = s.pc q := by
  cases launcherStep_move k <;> exact Function.update_of_ne hq _ _

/-- Neither do all the steps of one launcher. -/
theorem launcherRun_frame {s t : Launchers} {pid q : Nat} {es : List (Nat × Command)}
    (h : Run (Fn launcherStep) s es t) (hes : ∀ e ∈ es, e.1 = pid) (hq : q ≠ pid) :
    t.pc q = s.pc q := by
  refine h.history (I := fun fs u => (∀ e ∈ fs, e.1 = pid) → u.pc q = s.pc q) (fun _ => rfl) ?_ hes
  intro fs u e v _ ih k hall
  rw [launcherStep_frame k (hall e (by simp) ▸ hq)]
  exact ih fun f hf => hall f (List.mem_append_left _ hf)

/-- Who owns the lock after a step did before, or made it. -/
theorem goto_owns {s : Launchers} {pid q : Nat} {pc : Pc} (h : ((s.goto pid pc).pc q).Owns) :
    q = pid ∧ pc.Owns ∨ q ≠ pid ∧ (s.pc q).Owns := by
  by_cases hq : q = pid
  · subst hq
    rw [goto_pc, Function.update_self] at h
    exact .inl ⟨rfl, h⟩
  · rw [goto_pc, Function.update_of_ne hq] at h
    exact .inr ⟨hq, h⟩

/-- A state without owners. -/
theorem Owned.of_none {s : Launchers} (h : ∀ q, ¬ (s.pc q).Owns) : Owned s :=
  ⟨fun p _ hp => absurd hp (h p), fun p hp => absurd hp (h p)⟩

/-- Every step of the launchers that disturbs nobody keeps the owner alone. -/
theorem Owned.step {s t : Launchers} {e : Nat × Command} (h : Owned s) (hok : Undisturbed s e)
    (k : launcherStep s e = some t) : Owned t := by
  cases launcherStep_move k with
  | @keeps pid command pc lock howns hlock =>
      have hs : ∀ q, (((s.withLock lock).goto pid pc).pc q).Owns → (s.pc q).Owns := by
        intro q hq
        rcases goto_owns hq with ⟨rfl, hpc⟩ | ⟨-, hq⟩
        · exact howns hpc
        · exact hq
      exact ⟨fun p q hp hq => h.unique p q (hs p hp) (hs q hq),
        fun p hp => hlock (h.present p (hs p hp))⟩
  | @claims pid command hfree =>
      -- nobody owned the directory that was not there
      have halone : ∀ q, (((s.withLock (some none)).goto pid .writeOwner).pc q).Owns → q = pid := by
        intro q hq
        rcases goto_owns hq with ⟨hq, -⟩ | ⟨-, hq⟩
        · exact hq
        · exact absurd hfree (h.present q hq)
      exact ⟨fun p q hp hq => (halone p hp).trans (halone q hq).symm,
        fun _ _ => Option.some_ne_none _⟩
  | @drops pid command lock howned =>
      refine .of_none fun q hq => ?_
      rcases goto_owns hq with ⟨-, hpc⟩ | ⟨hne, hq⟩
      · cases hpc
      · exact hne (h.unique q pid hq howned)
  | @takesOver pid hpc hempty =>
      refine .of_none fun q hq => ?_
      rcases goto_owns hq with ⟨-, hpc⟩ | ⟨-, hq⟩
      · cases hpc
      · exact hok rfl hpc hempty q hq

/-- The owner is the only one. -/
theorem Owned.exclusive {s : Launchers} (h : Owned s) : Exclusive s :=
  fun p q hp hq => h.unique p q (by rw [hp]; rfl) (by rw [hq]; rfl)

/-- **Mutual exclusion.**  At most one launcher holds the lock, in every run of the launchers in
which no takeover removes the directory of a live one. -/
theorem acquire_exclusive {lock : Lock} {es : List (Nat × Command)} {s : Launchers}
    (h : Run (restrict (Fn launcherStep) Undisturbed) (.initial lock) es s) : Exclusive s := by
  have howned : Owned s := h.invariant (I := Owned) (fun hI k => hI.step k.1 k.2) (.of_none nofun)
  exact howned.exclusive

/-- The lock of the dead launcher 99. -/
def staleLock : Lock := some (some ['9', '9', '\n'])

/-- A launcher that finds the dead owner. -/
def finds (pid : Nat) : List (Nat × Command) :=
  [(pid, .start), (pid, .mkdir true), (pid, .read), (pid, .probe false)]

/-- What it does then. -/
def takesOver (pid : Nat) : List (Nat × Command) :=
  [(pid, .rm true), (pid, .rmdir true), (pid, .mkdir true), (pid, .write .written)]

/-- One launcher alone gets the lock of a dead one. -/
theorem acquire_exclusive_takeover :
    ∃ s, Run (restrict (Fn launcherStep) Undisturbed) (.initial staleLock)
      (finds 1 ++ takesOver 1) s ∧ s.pc 1 = .held ∧ Exclusive s := by
  obtain ⟨r, hr⟩ : ∃ r, exec launcherStep (.initial staleLock) (finds 1 ++ [(1, .rm true)]) =
      some r := ⟨_, rfl⟩
  obtain ⟨t, ht⟩ : ∃ t, launcherStep r (1, .rmdir true) = some t := by
    cases hr
    exact ⟨_, rfl⟩
  obtain ⟨s, hs⟩ : ∃ s, exec launcherStep t [(1, .mkdir true), (1, .write .written)] = some s := by
    cases hr
    cases ht
    exact ⟨_, rfl⟩
  have hpc : r.pc 1 = .removeDir ∧ s.pc 1 = .held := by
    cases hr
    cases ht
    cases hs
    exact ⟨rfl, rfl⟩
  have hfree : ∀ es : List (Nat × Command), (∀ e ∈ es, e.2 ≠ .rmdir true) →
      ∀ e ∈ es, ∀ u, Undisturbed u e := fun _ hes e he _ h => absurd h (hes e he)
  have halone : Undisturbed r (1, .rmdir true) := by
    intro _ _ _ q hq
    by_cases h1 : q = 1
    · subst h1
      rw [hpc.1] at hq
      cases hq
    · have hes : ∀ e ∈ finds 1 ++ [(1, .rm true)], e.1 = 1 := by decide
      rw [launcherRun_frame (run_of_exec hr) hes h1] at hq
      cases hq
  have hrun : Run (restrict (Fn launcherStep) Undisturbed) (.initial staleLock)
      (finds 1 ++ takesOver 1) s :=
    ((run_of_exec hr).restricted (hfree _ (by decide))).trans
      (.cons ⟨halone, ht⟩ ((run_of_exec hs).restricted (hfree _ (by decide))))
  exact ⟨s, hrun, hpc.2, acquire_exclusive hrun⟩

/-- **Two owners.**  Both launchers find the dead owner before the first takes over, and the
second removes the lock of the first. -/
theorem acquire_not_exclusive :
    ¬ ∀ lock es s, Run (Fn launcherStep) (.initial lock) es s → Exclusive s := by
  intro hall
  obtain ⟨s, hs⟩ : ∃ s, exec launcherStep (.initial staleLock)
      (finds 1 ++ finds 2 ++ takesOver 1 ++ takesOver 2) = some s := ⟨_, rfl⟩
  have hheld : s.pc 1 = .held ∧ s.pc 2 = .held := by
    cases hs
    exact ⟨rfl, rfl⟩
  exact absurd (hall staleLock _ s (run_of_exec hs) 1 2 hheld.1 hheld.2) (by decide)

end PaperPad.Launcher
