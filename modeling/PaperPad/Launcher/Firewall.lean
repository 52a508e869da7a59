import Mathlib.Logic.Relation
import PaperPad.Launcher.Run

/-!
# Launcher — Firewall

The discovery rule of the firewall over all launches, each cut anywhere: by a signal that kills the
launcher, or with the device.

* `firewall_frame`: whatever `iptables` refuses, the launches change nothing but the chain
  `PAPERPAD_DISCOVERY` and the jumps to it.
* `firewall_restored`: where `iptables` refuses only what it must, a launch that comes to its end
  leaves no rule behind, also none of the launches that were cut before it.  A launch that refuses
  to start leaves all as it was; one that cannot write the PID file leaves its own rule.

`iptables` is a parameter.  `Documented` is what an operation that succeeds has done, and `Reliable`
adds which operations succeed.
-/

namespace PaperPad.Launcher

open Script Transition

variable {iptables : Behaviour} {fw fw' base : Firewall} {h h' es : List (Line × Reply)}
  {o : Settings}

/-! ### What is relied on of `iptables` -/

/-- What `iptables` may answer to an operation, and the firewall it leaves. -/
abbrev Behaviour := Firewall → Iptables → Reply → Firewall → Prop

/-- Refused, an operation does nothing; otherwise it does what it is for. -/
structure Documented (iptables : Behaviour) : Prop where
  refused {fw operation r fw'} (he : iptables fw operation r fw') (hs : r.status ≠ 0) : fw' = fw
  newChain {fw chain r fw'} (he : iptables fw (.newChain chain) r fw') (hs : r.status = 0) :
    fw.chains chain = none ∧ fw' = fw.setChain chain (some [])
  checkInput {fw rule r fw'} (he : iptables fw (.checkInput rule) r fw') (hs : r.status = 0) :
    rule ∈ fw.input ∧ fw' = fw
  insertInput {fw rule r fw'} (he : iptables fw (.insertInput rule) r fw') (hs : r.status = 0) :
    fw' = { fw with input := rule :: fw.input }
  append {fw chain rule r fw'} (he : iptables fw (.append chain rule) r fw') (hs : r.status = 0) :
    ∃ rules, fw.chains chain = some rules ∧ fw' = fw.setChain chain (some (rules ++ [rule]))
  check {fw chain rule r fw'} (he : iptables fw (.check chain rule) r fw') (hs : r.status = 0) :
    fw' = fw
  deleteInput {fw rule r fw'} (he : iptables fw (.deleteInput rule) r fw') (hs : r.status = 0) :
    rule ∈ fw.input ∧ fw' = { fw with input := fw.input.erase rule }
  flush {fw chain r fw'} (he : iptables fw (.flush chain) r fw') (hs : r.status = 0) :
    fw.chains chain ≠ none ∧ fw' = fw.setChain chain (some [])
  deleteChain {fw chain r fw'} (he : iptables fw (.deleteChain chain) r fw') (hs : r.status = 0) :
    fw.chains chain = some [] ∧ fw' = fw.setChain chain none

/-- Of what the launcher wants changed, only what must be refused is. -/
structure Reliable (iptables : Behaviour) : Prop extends Documented iptables where
  creates {fw chain r fw'} (he : iptables fw (.newChain chain) r fw')
    (hn : fw.chains chain = none) : r.status = 0
  inserts {fw rule r fw'} (he : iptables fw (.insertInput rule) r fw')
    (hn : fw.chains rule.target ≠ none) : r.status = 0
  appends {fw chain rule r fw'} (he : iptables fw (.append chain rule) r fw')
    (hn : fw.chains chain ≠ none) : r.status = 0
  deletes {fw rule r fw'} (he : iptables fw (.deleteInput rule) r fw')
    (hm : rule ∈ fw.input) : r.status = 0
  flushes {fw chain r fw'} (he : iptables fw (.flush chain) r fw')
    (hn : fw.chains chain ≠ none) : r.status = 0
  removes {fw chain r fw'} (he : iptables fw (.deleteChain chain) r fw')
    (hn : fw.chains chain = some []) (hr : fw.Referenced chain = false) : r.status = 0

/-- What the commands of the launcher do to the firewall. -/
def Effect (iptables : Behaviour) (fw : Firewall) (c : Line) (r : Reply) (fw' : Firewall) : Prop :=
  match c with
  | .iptables operation => iptables fw operation r fw'
  | .waitForever _ => False
  | _ => fw' = fw

/-! ### What leaves the firewall alone -/

section Quiet

variable {α : Type}

/-- Commands that are not `iptables`. -/
def Quiet (c : Line) : Prop := ∀ operation, c ≠ .iptables operation

/-- The history has grown and the firewall is the same. -/
def Same (h : List (Line × Reply)) (fw : Firewall) (h' : List (Line × Reply)) (fw' : Firewall) :
    Prop :=
  h <+: h' ∧ fw' = fw

/-- A quiet command leaves the firewall alone. -/
theorem effect_quiet {c : Line} {r : Reply} (hc : Quiet c) (he : Effect iptables fw c r fw') :
    fw' = fw := by
  cases c with
  | iptables operation => exact absurd rfl (hc operation)
  | waitForever => exact he.elim
  | _ => exact he

/-- So does a script of quiet commands. -/
theorem ensures_quiet {E : Except Nat α → Prop} {p : Shell α} (hp : p.Only Quiet E) :
    p.Ensures (Effect iptables) (Same h fw) (fun out _ _ => E out) h fw := by
  refine hp.ensures (fun {h' fw₁ c r fw₂} hc hi he => ?_) ⟨List.prefix_rfl, rfl⟩
  exact ⟨hi.1.trans (List.prefix_append ..), (effect_quiet hc he).trans hi.2⟩

section Commands

variable {c : Line}

theorem only_runs (hc : Quiet c) : (runs c).Only Quiet Returned := ⟨hc, fun _ => trivial⟩

theorem only_test (hc : Quiet c) : (test c).Only Quiet Returned := ⟨hc, fun _ => trivial⟩

theorem only_output (hc : Quiet c) : (output c).Only Quiet Returned := ⟨hc, fun _ => trivial⟩

end Commands

theorem only_pid_is_expected (pid : String) : (o.pid_is_expected pid).Only Quiet Returned := by
  unfold Settings.pid_is_expected
  split
  · trivial
  · refine (only_test (by simp [Quiet])).seq fun found => ?_
    split
    · trivial
    · refine (only_output (by simp [Quiet])).seq fun exe => ?_
      split
      · trivial
      · refine (only_test (by simp [Quiet])).seq fun readable => ?_
        split
        · refine (only_output (by simp [Quiet])).seq fun argument => ?_
          split <;> trivial
        · trivial

theorem only_write_status (text : String) : (o.write_status text).Only Quiet Returned := by
  refine (only_test (by simp [Quiet])).seq fun written => ?_
  split
  · exact only_runs (by simp [Quiet])
  · exact only_runs (by simp [Quiet])

theorem only_release_lock : o.release_lock.Only Quiet Returned :=
  (only_runs (by simp [Quiet])).seq fun _ => only_runs (by simp [Quiet])

theorem only_show_status (text : String) : (show_status text).Only Quiet Returned := by
  refine (only_test (by simp [Quiet])).seq fun found => ?_
  split
  · exact (only_runs (by simp [Quiet])).seq fun _ => only_runs (by simp [Quiet])
  · trivial

theorem only_acquire_lock : o.acquire_lock.Only Quiet Returned := by
  -- a directory of its own, with the owner in it
  have hown (k : Shell Bool) (hk : k.Only Quiet Returned) :
      (test (.write o.LOCK_OWNER_FILE (toString o.self ++ "\n")) >>= fun written =>
        if written then return true else k).Only Quiet Returned := by
    refine (only_test (by simp [Quiet])).seq fun written => ?_
    split
    · trivial
    · exact hk
  have hfail : (runs (.rmdir o.LOCK_DIR) >>= fun _ => return false).Only Quiet Returned :=
    (only_runs (by simp [Quiet])).seq fun _ => trivial
  refine (only_test (by simp [Quiet])).seq fun made => ?_
  split
  · exact hown _ hfail
  refine (only_output (by simp [Quiet])).seq fun owner => ?_
  split
  · exact (only_runs (by simp [Quiet])).seq fun _ => trivial
  refine (only_test (by simp [Quiet])).seq fun alive => ?_
  split
  · exact (only_runs (by simp [Quiet])).seq fun _ => trivial
  refine (only_runs (by simp [Quiet])).seq fun _ => ?_
  refine (only_runs (by simp [Quiet])).seq fun _ => ?_
  refine (only_test (by simp [Quiet])).seq fun removed => ?_
  split
  · trivial
  refine (only_test (by simp [Quiet])).seq fun made => ?_
  split
  · exact hown _ hfail
  · trivial

/-- A refusal says so and exits. -/
theorem only_refuse (logged : List String) (status shown : String) (holdsLock : Bool) :
    (o.refuse logged status shown holdsLock).Only Quiet Exited := by
  have hlogs : (logged.forM fun text => runs (.log text)).Only Quiet Returned := by
    induction logged with
    | nil => trivial
    | cons text logged ih => exact (only_runs (by simp [Quiet])).seq fun _ => ih
  refine hlogs.seq fun _ => (only_runs (by simp [Quiet])).seq fun _ => ?_
  refine (only_write_status _).seq fun _ => (only_show_status _).seq fun _ => ?_
  split
  · exact only_release_lock.seq fun _ => trivial
  · trivial

/-- A refusal gives no iptables command, however it ends. -/
theorem only_refuse_or {E : Except Nat Unit → Prop} (hE : E (.ok ()) ∧ ∀ status, E (.error status))
    {logged : List String} {status shown : String} {holdsLock : Bool} :
    (o.refuse logged status shown holdsLock).Only Quiet E := by
  refine (only_refuse ..).mono (fun _ hc => hc) ?_
  rintro (status | ⟨⟩) _
  · exact hE.2 status
  · exact hE.1

/-- One part after another, whatever its end. -/
theorem only_bind {γ : Type} {p : Shell α} {k : α → Shell γ} (hp : p.Only Quiet fun _ => True)
    (hk : ∀ a, (k a).Only Quiet fun _ => True) : (p >>= k).Only Quiet fun _ => True := by
  refine Only.bind (hp.mono (fun _ hc => hc) ?_)
  rintro (status | a) _
  · trivial
  · exact hk a

theorem only_refuseLive (recorded : String) :
    (o.refuseLive recorded).Only Quiet fun _ => True := by
  refine (only_pid_is_expected recorded).seq fun expected => ?_
  split
  · exact only_refuse_or ⟨trivial, fun _ => trivial⟩
  · split
    · refine (only_test (by simp [Quiet])).seq fun alive => ?_
      split
      · exact only_refuse_or ⟨trivial, fun _ => trivial⟩
      · trivial
    · trivial

theorem only_removeStale (recorded : String) :
    (o.removeStale recorded).Only Quiet fun _ => True := by
  refine (only_runs (by simp [Quiet])).seq fun _ => ?_
  refine (only_test (by simp [Quiet])).seq fun removed => ?_
  split
  · exact only_refuse_or ⟨trivial, fun _ => trivial⟩
  · trivial

theorem only_requireBinary : o.requireBinary.Only Quiet fun _ => True := by
  refine (only_test (by simp [Quiet])).seq fun found => ?_
  split
  · exact only_refuse_or ⟨trivial, fun _ => trivial⟩
  · trivial

theorem only_requireLock : o.requireLock.Only Quiet fun _ => True := by
  refine only_acquire_lock.seq fun acquired => ?_
  split
  · exact only_refuse_or ⟨trivial, fun _ => trivial⟩
  · trivial

/-- Nor does anything before the launch. -/
theorem only_prepare : o.prepare.Only Quiet fun _ => True := by
  refine (only_runs (by simp [Quiet])).seq fun _ => (only_runs (by simp [Quiet])).seq fun _ => ?_
  refine only_bind only_requireBinary fun _ => only_bind only_requireLock fun _ => ?_
  refine (only_test (by simp [Quiet])).seq fun recorded => ?_
  split
  · exact (only_output (by simp [Quiet])).seq fun recorded =>
      only_bind (only_refuseLive recorded) fun _ => only_removeStale recorded
  · trivial

/-- Nor the start of PaperPad. -/
theorem only_start : o.start.Only Quiet Returned := by
  have hexecutable : o.makeExecutable.Only Quiet Returned := by
    refine (only_test (by simp [Quiet])).seq fun changed => ?_
    split
    · exact only_runs (by simp [Quiet])
    · trivial
  refine hexecutable.seq fun _ => ?_
  split
  · exact (only_runs (by simp [Quiet])).seq fun _ => only_output (by simp [Quiet])
  · exact (only_runs (by simp [Quiet])).seq fun _ => only_output (by simp [Quiet])

theorem only_abandon (child : String) : (o.abandon child).Only Quiet Exited := by
  have hsignal : (o.terminateChild child).Only Quiet Returned := by
    refine (only_pid_is_expected child).seq fun expected => ?_
    split
    · exact only_runs (by simp [Quiet])
    · trivial
  exact (only_runs (by simp [Quiet])).seq fun _ => hsignal.seq fun _ =>
    (only_runs (by simp [Quiet])).seq fun _ => (only_write_status _).seq fun _ =>
      (only_show_status _).seq fun _ => only_release_lock.seq fun _ => trivial

theorem only_waitChild (child : String) (rounds : Nat) :
    (waitChild child rounds).Only Quiet Returned := by
  induction rounds with
  | zero => exact ⟨by simp [Quiet], fun _ => trivial⟩
  | succ rounds ih =>
      refine (only_output (by simp [Quiet])).seq fun status => ?_
      refine (only_test (by simp [Quiet])).seq fun alive => ?_
      split
      · exact ih
      · trivial

/-- Nor the wait for it. -/
theorem only_supervise (child : String) (rounds : Nat) :
    (o.supervise child rounds).Only Quiet Returned := by
  have hwatchdog (pid : String) : (Settings.stopWatchdog pid).Only Quiet Returned := by
    unfold Settings.stopWatchdog
    split
    · exact (only_runs (by simp [Quiet])).seq fun _ => only_runs (by simp [Quiet])
    · trivial
  have hforget : (o.forgetChild child).Only Quiet Returned := by
    refine (only_output (by simp [Quiet])).seq fun recorded => ?_
    split
    · exact only_runs (by simp [Quiet])
    · exact only_runs (by simp [Quiet])
  refine (only_runs (by simp [Quiet])).seq fun _ => (only_write_status _).seq fun _ => ?_
  refine (only_output (by simp [Quiet])).seq fun watchdog => ?_
  refine (only_waitChild child rounds).seq fun status => (hwatchdog watchdog).seq fun _ => ?_
  refine hforget.seq fun _ => (only_output (by simp [Quiet])).seq fun marked => ?_
  exact (only_runs (by simp [Quiet])).seq fun _ => (only_runs (by simp [Quiet])).seq fun _ =>
    (only_runs (by simp [Quiet])).seq fun _ => (only_write_status _).seq fun _ => trivial

/-- A part that leaves the firewall alone, and what goes on from it. -/
theorem quiet_bind {γ : Type} {E : Except Nat α → Prop} {p : Shell α} {k : α → Shell γ}
    {I : List (Line × Reply) → Firewall → Prop}
    {Q : Except Nat γ → List (Line × Reply) → Firewall → Prop} (hp : p.Only Quiet E)
    (hI : ∀ h', h <+: h' → I h' fw)
    (he : ∀ status h', h <+: h' → E (.error status) → Q (.error status) h' fw)
    (hk : ∀ a h', h <+: h' → E (.ok a) → (k a).Ensures (Effect iptables) I Q h' fw) :
    (p >>= k).Ensures (Effect iptables) I Q h fw := by
  refine .bind ((ensures_quiet hp).mono (fun h' _ hi => hi.2 ▸ hI h' hi.1) ?_)
  rintro (status | a) h' _ ⟨hh, rfl⟩ hend
  · exact he status h' hh hend
  · exact hk a h' hh hend

end Quiet

/-! ### The operations -/

/-- The firewall `base` with the discovery chain. -/
def Firewall.chained (base : Firewall) (rules : List Rule) : Firewall :=
  base.setChain DISCOVERY_CHAIN (some rules)

/-- And with the jump to it. -/
def Firewall.jumping (base : Firewall) (rules : List Rule) : Firewall :=
  { base.chained rules with input := JUMP :: base.input }

/-- Nothing of the launcher is in the firewall. -/
structure Firewall.Bare (base : Firewall) : Prop where
  chain : base.chains DISCOVERY_CHAIN = none
  input : base.Referenced DISCOVERY_CHAIN = false

/-- The firewall `base` with as much of the launcher's as a launch cut anywhere may have left. -/
inductive Between (base : Firewall) : Firewall → Prop where
  | bare : Between base base
  | chained (rules : List Rule) : Between base (base.chained rules)
  | jumping (rules : List Rule) : Between base (base.jumping rules)

section Operations

/-- The rules of the chain, replaced. -/
theorem chained_chained (rules rules' : List Rule) :
    (base.chained rules).setChain DISCOVERY_CHAIN (some rules') = base.chained rules' := by
  simp [Firewall.chained, Firewall.setChain]

/-- The rules of the chain, replaced under a jump. -/
theorem jumping_jumping (rules rules' : List Rule) :
    (base.jumping rules).setChain DISCOVERY_CHAIN (some rules') = base.jumping rules' := by
  simp [Firewall.jumping, Firewall.chained, Firewall.setChain]

@[simp] theorem chained_chain (base : Firewall) (rules : List Rule) :
    (base.chained rules).chains DISCOVERY_CHAIN = some rules := by
  simp [Firewall.chained, Firewall.setChain]

@[simp] theorem jumping_chain (rules : List Rule) :
    (base.jumping rules).chains DISCOVERY_CHAIN = some rules :=
  chained_chain base rules

/-- A bare firewall has no jump to the chain. -/
theorem Firewall.Bare.jump_notMem (hb : base.Bare) : JUMP ∉ base.input := fun hm => by
  have hr := hb.input
  rw [Firewall.Referenced, List.any_eq_false] at hr
  exact hr JUMP hm (by simp [JUMP])

/-- Without the jump, the chain can be deleted. -/
theorem Firewall.Bare.unreferenced (hb : base.Bare) (rules : List Rule) :
    (base.chained rules).Referenced DISCOVERY_CHAIN = false := hb.input

/-- Deleting the chain gives back what there was. -/
theorem setChain_none (hb : base.Bare) (rules : List Rule) :
    (base.chained rules).setChain DISCOVERY_CHAIN none = base := by
  rw [Firewall.chained, Firewall.setChain, Firewall.setChain, Function.update_idem, ← hb.chain,
    Function.update_eq_self]

/-! Each operation, where the launcher uses it. -/

variable {rules : List Rule} {r : Reply}

/-- There is no jump to delete. -/
theorem deleteInput_bare (hd : Documented iptables) (hb : base.Bare)
    (he : iptables base (.deleteInput JUMP) r fw') : fw' = base :=
  hd.refused he fun hs => hb.jump_notMem (hd.deleteInput he hs).1

/-- Nor is there with a chain alone. -/
theorem deleteInput_chained (hd : Documented iptables) (hb : base.Bare)
    (he : iptables (base.chained rules) (.deleteInput JUMP) r fw') : fw' = base.chained rules :=
  hd.refused he fun hs => hb.jump_notMem (hd.deleteInput he hs).1

/-- The jump is deleted. -/
theorem deleteInput_jumping (hr : Reliable iptables)
    (he : iptables (base.jumping rules) (.deleteInput JUMP) r fw') : fw' = base.chained rules := by
  have hs : r.status = 0 := hr.deletes he (by simp [Firewall.jumping])
  rw [(hr.deleteInput he hs).2]
  simp [Firewall.jumping, Firewall.chained, Firewall.setChain]

/-- There is no chain to empty. -/
theorem flush_bare (hd : Documented iptables) (hb : base.Bare)
    (he : iptables base (.flush DISCOVERY_CHAIN) r fw') : fw' = base :=
  hd.refused he fun hs => (hd.flush he hs).1 hb.chain

/-- The chain is emptied. -/
theorem flush_chained (hr : Reliable iptables)
    (he : iptables (base.chained rules) (.flush DISCOVERY_CHAIN) r fw') : fw' = base.chained [] := by
  have hs : r.status = 0 := hr.flushes he (by simp)
  rw [(hr.flush he hs).2, chained_chained]

/-- There is no chain to delete. -/
theorem deleteChain_bare (hd : Documented iptables) (hb : base.Bare)
    (he : iptables base (.deleteChain DISCOVERY_CHAIN) r fw') : fw' = base := by
  refine hd.refused he fun hs => ?_
  have hchain := (hd.deleteChain he hs).1
  rw [hb.chain] at hchain
  cases hchain

/-- An empty chain without a jump is deleted. -/
theorem deleteChain_chained (hr : Reliable iptables) (hb : base.Bare)
    (he : iptables (base.chained []) (.deleteChain DISCOVERY_CHAIN) r fw') : fw' = base := by
  have hs : r.status = 0 := hr.removes he (by simp) (hb.unreferenced [])
  rw [(hr.deleteChain he hs).2, setChain_none hb]

/-- The chain is made. -/
theorem newChain_bare (hr : Reliable iptables) (hb : base.Bare)
    (he : iptables base (.newChain DISCOVERY_CHAIN) r fw') : fw' = base.chained [] :=
  (hr.newChain he (hr.creates he hb.chain)).2

/-- The jump is looked for where it is not. -/
theorem checkInput_chained (hd : Documented iptables) (hb : base.Bare)
    (he : iptables (base.chained rules) (.checkInput JUMP) r fw') :
    r.status ≠ 0 ∧ fw' = base.chained rules := by
  have hs : r.status ≠ 0 := fun hs => hb.jump_notMem (hd.checkInput he hs).1
  exact ⟨hs, hd.refused he hs⟩

/-- The jump is put in front. -/
theorem insertInput_chained (hr : Reliable iptables)
    (he : iptables (base.chained rules) (.insertInput JUMP) r fw') : fw' = base.jumping rules :=
  hr.insertInput he (hr.inserts he (by simp [JUMP]))

/-- The rule is put into the chain. -/
theorem append_jumping (hr : Reliable iptables)
    (he : iptables (base.jumping rules) (.append DISCOVERY_CHAIN DISCOVERY_RULE) r fw') :
    fw' = base.jumping (rules ++ [DISCOVERY_RULE]) := by
  obtain ⟨rules', hrules, rfl⟩ := hr.append he (hr.appends he (by simp))
  rw [jumping_chain] at hrules
  cases hrules
  exact jumping_jumping ..

/-- Looking for a rule changes nothing. -/
theorem check_same (hd : Documented iptables) {chain : String} {rule : Rule}
    (he : iptables fw (.check chain rule) r fw') : fw' = fw := by
  by_cases hs : r.status = 0
  · exact hd.check he hs
  · exact hd.refused he hs

end Operations

/-! ### The rule where `iptables` refuses only what it must -/

section Reliable

variable {α : Type}

/-- The history has grown, and the firewall is one of a launch that may have been cut. -/
def Tidy (base : Firewall) (h h' : List (Line × Reply)) (fw' : Firewall) : Prop :=
  h <+: h' ∧ Between base fw'

/-- An operation whose status is ignored. -/
theorem ensures_runs {operation : Iptables} {ok : Firewall → Prop} (hi : Between base fw)
    (hdone : ∀ r fw', iptables fw operation r fw' → ok fw')
    (hok : ∀ fw', ok fw' → Between base fw') :
    (runs (.iptables operation)).Ensures (Effect iptables) (Tidy base h)
      (Returns fun _ _ fw' => ok fw') h fw := by
  refine ⟨⟨List.prefix_rfl, hi⟩, fun r fw' he => ?_⟩
  have hok' := hdone r fw' he
  exact ⟨⟨List.prefix_append .., hok fw' hok'⟩, hok'⟩

/-- An operation whose status is tested. -/
theorem ensures_test {operation : Iptables} {ok : Bool → Firewall → Prop} (hi : Between base fw)
    (hdone : ∀ r fw', iptables fw operation r fw' → ok (r.status = 0) fw')
    (hok : ∀ found fw', ok found fw' → Between base fw') :
    (test (.iptables operation)).Ensures (Effect iptables) (Tidy base h)
      (Returns fun found _ fw' => ok found fw') h fw := by
  refine ⟨⟨List.prefix_rfl, hi⟩, fun r fw' he => ?_⟩
  have hok' := hdone r fw' he
  exact ⟨⟨List.prefix_append .., hok _ fw' hok'⟩, hok'⟩

/-- Writing the log changes nothing. -/
theorem ensures_log (text : String) :
    (runs (.log text)).Ensures (Effect iptables) (Same h fw) (Returns fun _ _ fw' => fw' = fw)
      h fw := by
  refine ⟨⟨List.prefix_rfl, rfl⟩, fun r fw' he => ?_⟩
  obtain rfl : fw' = fw := he
  exact ⟨⟨List.prefix_append .., rfl⟩, rfl⟩

/-- Without the jump. -/
def Unlinked (base fw : Firewall) : Prop := fw = base ∨ ∃ rules, fw = base.chained rules

/-- Without the jump and the rules. -/
def Emptied (base fw : Firewall) : Prop := fw = base ∨ fw = base.chained []

theorem Unlinked.between (hu : Unlinked base fw) : Between base fw := by
  rcases hu with rfl | ⟨rules, rfl⟩
  · exact .bare
  · exact .chained rules

theorem Emptied.between (he : Emptied base fw) : Between base fw := by
  rcases he with rfl | rfl
  · exact .bare
  · exact .chained []

/-- Whatever a launch that was cut has left, it goes. -/
theorem ensures_remove_discovery_rule (hr : Reliable iptables) (hb : base.Bare)
    (hi : Between base fw) :
    remove_discovery_rule.Ensures (Effect iptables) (Tidy base h)
      (Returns fun _ _ fw' => fw' = base) h fw := by
  have hd := hr.toDocumented
  have hdelete : ∀ r fw', iptables fw (.deleteInput JUMP) r fw' → Unlinked base fw' := by
    intro r fw' he
    cases hi with
    | bare => exact .inl (deleteInput_bare hd hb he)
    | chained rules => exact .inr ⟨rules, deleteInput_chained hd hb he⟩
    | jumping rules => exact .inr ⟨rules, deleteInput_jumping hr he⟩
  refine (ensures_runs hi hdelete fun _ => Unlinked.between).returned (fun _ _ hi => hi)
    fun _ h₁ fw₁ h1 hunlinked => ?_
  have hflush : ∀ r fw', iptables fw₁ (.flush DISCOVERY_CHAIN) r fw' → Emptied base fw' := by
    intro r fw' he
    rcases hunlinked with rfl | ⟨rules, rfl⟩
    · exact .inl (flush_bare hd hb he)
    · exact .inr (flush_chained hr he)
  refine (ensures_runs h1.2 hflush fun _ => Emptied.between).returned
    (fun _ _ hi => ⟨h1.1.trans hi.1, hi.2⟩) fun _ h₂ fw₂ h2 hemptied => ?_
  have hremove : ∀ r fw', iptables fw₂ (.deleteChain DISCOVERY_CHAIN) r fw' → fw' = base := by
    intro r fw' he
    rcases hemptied with rfl | rfl
    · exact deleteChain_bare hd hb he
    · exact deleteChain_chained hr hb he
  refine (ensures_runs h2.2 hremove fun _ hfw => hfw ▸ .bare).returned
    (fun _ _ hi => ⟨(h1.1.trans h2.1).trans hi.1, hi.2⟩) fun _ h₃ fw₃ h3 hfw₃ => ?_
  subst hfw₃
  exact (ensures_log _).mono (fun _ _ hi => ⟨((h1.1.trans h2.1).trans h3.1).trans hi.1,
    hi.2 ▸ .bare⟩) fun _ _ _ _ hq => hq

/-- The firewall with the rule in it. -/
def Firewall.opened (base : Firewall) : Firewall := base.jumping [DISCOVERY_RULE]

/-- The rule is installed where nothing of the launcher is. -/
theorem ensures_install_discovery_rule (hr : Reliable iptables) (hb : base.Bare) :
    install_discovery_rule.Ensures (Effect iptables) (Tidy base h)
      (Returns fun _ _ fw' => fw' = base.opened) h base := by
  have hd := hr.toDocumented
  refine (ensures_runs .bare (fun _ _ he => newChain_bare hr hb he)
    fun _ hfw => hfw ▸ .chained []).returned (fun _ _ hi => hi) fun _ h₁ fw₁ h1 hfw₁ => ?_
  subst hfw₁
  have hcheck : (test (.iptables (.checkInput JUMP))).Ensures (Effect iptables) (Tidy base h₁)
      (Returns fun found _ fw' => found = false ∧ fw' = base.chained []) h₁ (base.chained []) := by
    refine ensures_test h1.2 (fun r fw' he => ?_) fun _ _ hfw => hfw.2 ▸ .chained []
    obtain ⟨hs, hfw⟩ := checkInput_chained hd hb he
    exact ⟨decide_eq_false hs, hfw⟩
  refine hcheck.returned (fun _ _ hi => ⟨h1.1.trans hi.1, hi.2⟩) fun present h₂ fw₂ h2 hfw₂ => ?_
  obtain ⟨rfl, rfl⟩ := hfw₂
  refine (ensures_runs h2.2 (fun _ _ he => insertInput_chained hr he)
    fun _ hfw => hfw ▸ .jumping []).returned
    (fun _ _ hi => ⟨(h1.1.trans h2.1).trans hi.1, hi.2⟩) fun _ h₃ fw₃ h3 hfw₃ => ?_
  subst hfw₃
  have hh₃ := (h1.1.trans h2.1).trans h3.1
  refine (ensures_runs h3.2 (fun _ _ he => append_jumping hr he)
    fun _ hfw => hfw ▸ .jumping _).returned
    (fun _ _ hi => ⟨hh₃.trans hi.1, hi.2⟩) fun _ h₄ fw₄ h4 hfw₄ => ?_
  obtain rfl : fw₄ = base.opened := hfw₄
  have hopened : Between base base.opened := h4.2
  have hverify : (test (.iptables (.check DISCOVERY_CHAIN DISCOVERY_RULE))).Ensures
      (Effect iptables) (Tidy base h₄) (Returns fun _ _ fw' => fw' = base.opened) h₄ base.opened :=
    ensures_test hopened (fun _ _ he => check_same hd he) fun _ _ hfw => hfw ▸ hopened
  refine hverify.returned (fun _ _ hi => ⟨(hh₃.trans h4.1).trans hi.1, hi.2⟩)
    fun verified h₅ fw₅ h5 hfw₅ => ?_
  subst hfw₅
  have hlog (text : String) : (runs (.log text)).Ensures (Effect iptables) (Tidy base h)
      (Returns fun _ _ fw' => fw' = base.opened) h₅ base.opened :=
    (ensures_log text).mono (fun _ _ hi => ⟨((hh₃.trans h4.1).trans h5.1).trans hi.1,
      hi.2 ▸ hopened⟩) fun _ _ _ _ hq => hq
  cases verified with
  | true => exact hlog _
  | false => exact hlog _

/-- How a launch from `fw` ends. -/
def Settings.LaunchEnds (o : Settings) (base fw : Firewall) (out : Except Nat Unit)
    (h : List (Line × Reply)) (fw' : Firewall) : Prop :=
  match out with
  | .ok () => fw' = base
  | .error _ => fw' = fw ∨
      fw' = base.opened ∧ ∃ text r, (.write o.PID_FILE text, r) ∈ h ∧ r.status ≠ 0

/-- What ends the script here is a PID file that could not be written. -/
theorem ensures_recordChild (child : String) :
    (o.recordChild child).Ensures (Effect iptables) (Same h fw)
      (fun out h' _ => match out with
        | .ok () => True
        | .error _ => ∃ text r, (.write o.PID_FILE text, r) ∈ h' ∧ r.status ≠ 0) h fw := by
  refine ⟨⟨List.prefix_rfl, rfl⟩, ?_⟩
  rintro r fw' (rfl : fw' = fw)
  by_cases hs : r.status = 0
  · simp only [hs, decide_true]
    exact ⟨⟨List.prefix_append .., rfl⟩, trivial⟩
  · simp only [hs, decide_false]
    refine (ensures_quiet (only_abandon child)).mono
      (fun _ _ hi => ⟨(List.prefix_append ..).trans hi.1, hi.2⟩) ?_
    rintro (status | ⟨⟩) h' _ hi hend
    · exact ⟨child ++ "\n", r, hi.1.subset (by simp), hs⟩
    · trivial

/-- A launch where `iptables` refuses only what it must. -/
theorem ensures_launch (hr : Reliable iptables) (hb : base.Bare) (hi : Between base fw)
    (rounds : Nat) :
    (o.launch rounds).Ensures (Effect iptables) (Tidy base h) (o.LaunchEnds base fw) h fw := by
  refine quiet_bind only_prepare (fun _ hh => ⟨hh, hi⟩) (fun _ _ _ _ => .inl rfl)
    fun _ h₁ hh₁ _ => ?_
  refine quiet_bind (only_runs (by simp [Quiet])) (fun _ hh => ⟨hh₁.trans hh, hi⟩)
    (fun _ _ _ he => he.elim) fun _ h₂ hh₂ _ => ?_
  have hh₂ := hh₁.trans hh₂
  refine (ensures_remove_discovery_rule hr hb hi).returned (fun _ _ hi => ⟨hh₂.trans hi.1, hi.2⟩)
    fun _ h₃ fw₃ hi₃ hfw₃ => ?_
  obtain rfl : fw₃ = base := hfw₃
  have hh₃ := hh₂.trans hi₃.1
  refine (ensures_install_discovery_rule hr hb).returned (fun _ _ hi => ⟨hh₃.trans hi.1, hi.2⟩)
    fun _ h₄ fw₄ hi₄ hfw₄ => ?_
  obtain rfl : fw₄ = fw₃.opened := hfw₄
  have hh₄ := hh₃.trans hi₄.1
  have hopened : Between fw₃ fw₃.opened := .jumping [DISCOVERY_RULE]
  refine quiet_bind only_start (fun _ hh => ⟨hh₄.trans hh, hopened⟩) (fun _ _ _ he => he.elim)
    fun child h₅ hh₅ _ => ?_
  have hh₅ := hh₄.trans hh₅
  refine .bind ((ensures_recordChild child).mono
    (fun _ _ hi => ⟨hh₅.trans hi.1, hi.2 ▸ hopened⟩) ?_)
  rintro (status | ⟨⟩) h₆ _ ⟨hh₆, rfl⟩ hrecord
  · exact .inr ⟨rfl, hrecord⟩
  have hh₆ := hh₅.trans hh₆
  refine quiet_bind (only_supervise child rounds) (fun _ hh => ⟨hh₆.trans hh, hopened⟩)
    (fun _ _ _ he => he.elim) fun stopped h₇ hh₇ _ => ?_
  have hh₇ := hh₆.trans hh₇
  refine (ensures_remove_discovery_rule hr hb hopened).returned
    (fun _ _ hi => ⟨hh₇.trans hi.1, hi.2⟩) fun _ h₈ fw₈ hi₈ hfw₈ => ?_
  obtain rfl : fw₈ = fw₃ := hfw₈
  have hh₈ := hh₇.trans hi₈.1
  refine quiet_bind (only_show_status stopped) (fun _ hh => ⟨hh₈.trans hh, .bare⟩)
    (fun _ _ _ he => he.elim) fun _ h₉ hh₉ _ => ?_
  refine (ensures_quiet only_release_lock).mono
    (fun _ _ hi => ⟨(hh₈.trans hh₉).trans hi.1, hi.2 ▸ .bare⟩) ?_
  rintro (status | ⟨⟩) h' _ hi hend
  · exact hend.elim
  · exact hi.2

end Reliable

/-! ### All launches -/

/-- A launch, cut anywhere or at its end. -/
def Launched (iptables : Behaviour) (fw fw' : Firewall) : Prop :=
  ∃ (o : Settings) (rounds : Nat) (es : List (Line × Reply)) (p : Shell Unit),
    Run (Step (Effect iptables)) (o.launch rounds, fw) es (p, fw')

/-- Cut launches leave at most the chain and the jump. -/
theorem between_launched (hipt : Reliable iptables) (hb : base.Bare)
    (hl : Relation.ReflTransGen (Launched iptables) base fw) : Between base fw := by
  induction hl with
  | refl => exact .bare
  | tail _ hstep ih =>
      obtain ⟨o, rounds, es, p, hr⟩ := hstep
      exact ((ensures_launch hipt hb ih rounds).start hr).cut.2

/-- **A launch that comes to its end** leaves the firewall as it was before all launches, if it has
started the child; what a cut launch leaves is the chain with at most a jump to it. -/
theorem firewall_restored (hipt : Reliable iptables) (hb : base.Bare)
    (hl : Relation.ReflTransGen (Launched iptables) base fw) {rounds : Nat} {p : Shell Unit}
    (hr : Run (Step (Effect iptables)) (o.launch rounds, fw) es (p, fw')) :
    Between base fw' ∧ ∀ out, p = ended out → o.LaunchEnds base fw out es fw' := by
  have hp := (ensures_launch hipt hb (between_launched hipt hb hl) rounds).start hr
  refine ⟨hp.cut.2, ?_⟩
  rintro out rfl
  exact (Ensures.ended_iff.mp hp).2

/-! ### A Kindle -/

/-- What `iptables` makes of the firewall, or nothing where it refuses. -/
def Firewall.apply (fw : Firewall) : Iptables → Option Firewall
  | .newChain chain =>
      match fw.chains chain with
      | none => some (fw.setChain chain (some []))
      | some _ => none
  | .checkInput rule => if rule ∈ fw.input then some fw else none
  | .insertInput rule =>
      if (fw.chains rule.target).isSome then some { fw with input := rule :: fw.input } else none
  | .append chain rule =>
      (fw.chains chain).map fun rules => fw.setChain chain (some (rules ++ [rule]))
  | .check chain rule =>
      (fw.chains chain).bind fun rules => if rule ∈ rules then some fw else none
  | .deleteInput rule =>
      if rule ∈ fw.input then some { fw with input := fw.input.erase rule } else none
  | .flush chain => (fw.chains chain).map fun _ => fw.setChain chain (some [])
  | .deleteChain chain =>
      match fw.chains chain with
      | some [] => if fw.Referenced chain then none else some (fw.setChain chain none)
      | _ => none

/-- The `iptables` that does so. -/
def applied (fw : Firewall) (operation : Iptables) (r : Reply) (fw' : Firewall) : Prop :=
  match fw.apply operation with
  | some fw'' => r.status = 0 ∧ fw' = fw''
  | none => r.status = 1 ∧ fw' = fw

/-- What succeeds has its effect. -/
theorem applied_zero {operation : Iptables} {r : Reply} (he : applied fw operation r fw')
    (hs : r.status = 0) : fw.apply operation = some fw' := by
  rw [applied] at he
  split at he
  · rw [he.2]
    assumption
  · exact absurd (he.1.symm.trans hs) Nat.one_ne_zero

/-- What has an effect succeeds. -/
theorem applied_some {operation : Iptables} {r : Reply} (he : applied fw operation r fw')
    (hs : (fw.apply operation).isSome) : r.status = 0 := by
  obtain ⟨fw'', ha⟩ := Option.isSome_iff_exists.mp hs
  rw [applied, ha] at he
  exact he.1

/-- It behaves as documented, and refuses only what it must. -/
theorem reliable_applied : Reliable applied where
  refused {fw operation r fw'} he hs := by
    rw [applied] at he
    split at he
    · exact absurd he.1 hs
    · exact he.2
  newChain {fw chain r fw'} he hs := by
    have ha := applied_zero he hs
    rw [Firewall.apply] at ha
    split at ha
    · exact ⟨by assumption, (Option.some.inj ha).symm⟩
    · cases ha
  checkInput he hs := by
    obtain ⟨hm, ha⟩ := Option.ite_none_right_eq_some.mp (applied_zero he hs)
    exact ⟨hm, (Option.some.inj ha).symm⟩
  insertInput he hs := (Option.some.inj (Option.ite_none_right_eq_some.mp (applied_zero he hs)).2).symm
  append he hs := by
    obtain ⟨rules, hrules, ha⟩ := Option.map_eq_some_iff.mp (applied_zero he hs)
    exact ⟨rules, hrules, ha.symm⟩
  check he hs := by
    obtain ⟨rules, -, ha⟩ := Option.bind_eq_some_iff.mp (applied_zero he hs)
    exact (Option.some.inj (Option.ite_none_right_eq_some.mp ha).2).symm
  deleteInput he hs := by
    obtain ⟨hm, ha⟩ := Option.ite_none_right_eq_some.mp (applied_zero he hs)
    exact ⟨hm, (Option.some.inj ha).symm⟩
  flush he hs := by
    obtain ⟨rules, hrules, ha⟩ := Option.map_eq_some_iff.mp (applied_zero he hs)
    exact ⟨Option.ne_none_iff_exists'.mpr ⟨rules, hrules⟩, ha.symm⟩
  deleteChain {fw chain r fw'} he hs := by
    have ha := applied_zero he hs
    rw [Firewall.apply] at ha
    split at ha
    · exact ⟨by assumption, (Option.some.inj (Option.ite_none_left_eq_some.mp ha).2).symm⟩
    · cases ha
  creates he hn := applied_some he (by rw [Firewall.apply, hn]; rfl)
  inserts he hn := applied_some he (by
    rw [Firewall.apply, if_pos (Option.isSome_iff_ne_none.mpr hn)]; rfl)
  appends he hn := applied_some he (by
    rw [Firewall.apply, Option.isSome_map, Option.isSome_iff_ne_none]; exact hn)
  deletes he hm := applied_some he (by rw [Firewall.apply, if_pos hm]; rfl)
  flushes he hn := applied_some he (by
    rw [Firewall.apply, Option.isSome_map, Option.isSome_iff_ne_none]; exact hn)
  removes he hn hr := applied_some he (by rw [Firewall.apply, hn]; simp [hr])

/-- A Kindle with this `iptables`, on which the PID file may not be writable. -/
def kindle (o : Settings) (pidFails : Bool) (fw : Firewall) : Line → Option (Reply × Firewall)
  | .iptables operation =>
      match fw.apply operation with
      | some fw' => some (⟨0, ""⟩, fw')
      | none => some (⟨1, ""⟩, fw)
  | .write path _ => some (⟨if pidFails ∧ path = o.PID_FILE then 1 else 0, ""⟩, fw)
  | .isFile path => some (⟨if path = o.BIN then 0 else 1, ""⟩, fw)
  | .killZero _ => some (⟨1, ""⟩, fw)
  | .spawn _ | .firstLine _ => some (⟨0, "412"⟩, fw)
  | .waitForever _ => none
  | _ => some (⟨0, "0"⟩, fw)

/-- Its answers make a run. -/
theorem run_kindle (pidFails : Bool) (p : Shell Unit) (fw : Firewall) :
    Run (Step (Effect applied)) (p, fw) (p.interpret (kindle o pidFails) fw).1
      ((p.interpret (kindle o pidFails) fw).2.1, (p.interpret (kindle o pidFails) fw).2.2) := by
  refine @run_interpret _ _ _ _ (Effect applied) _ id _ (fun {fw c r fw'} hk => ?_) p fw
  cases c with
  | iptables operation =>
      change applied fw operation r fw'
      rw [kindle] at hk
      rw [applied]
      split at hk
      · cases hk
        exact ⟨rfl, rfl⟩
      · cases hk
        exact ⟨rfl, rfl⟩
  | waitForever => cases hk
  | _ => cases hk; rfl

/-- `/mnt/us/extensions/rust_x11_hello`, by discovery. -/
def discovering : Settings where
  EXT_DIR := "/mnt/us/extensions/rust_x11_hello"
  COMPANION_HOST := ""
  WATCHDOG_SECONDS := "90"
  self := 400

/-- After a launch that left its rule behind. -/
theorem firewall_restored_again :
    let empty : Firewall := ⟨[], fun _ => none⟩
    let first := (discovering.launch 1).interpret (kindle discovering true) empty
    let second := (discovering.launch 1).interpret (kindle discovering false) first.2.2
    first.2.2.input = [JUMP] ∧ second.2.1.result = some (.ok ()) ∧
      discovering.LaunchEnds empty first.2.2 (.ok ()) second.1 second.2.2 := by
  intro empty first second
  have hok : second.2.1.result = some (.ok ()) := by decide +kernel
  have hfirst : Launched applied empty first.2.2 :=
    ⟨discovering, 1, first.1, first.2.1, run_kindle true _ empty⟩
  exact ⟨by decide +kernel, hok, (firewall_restored reliable_applied ⟨rfl, rfl⟩ (.single hfirst)
    (run_kindle false _ first.2.2)).2 _ (eq_ended hok)⟩

/-- The rules of others. -/
structure Untouched (fw fw' : Firewall) : Prop where
  input : fw'.input.filter (· ≠ JUMP) = fw.input.filter (· ≠ JUMP)
  chains : ∀ chain ≠ DISCOVERY_CHAIN, fw'.chains chain = fw.chains chain

/-- The operations on the launcher's own chain and jump. -/
def Own : Iptables → Prop
  | .newChain chain | .append chain _ | .check chain _ | .flush chain | .deleteChain chain =>
      chain = DISCOVERY_CHAIN
  | .checkInput rule | .insertInput rule | .deleteInput rule => rule = JUMP

/-- Without its jumps, INPUT is the same when one is deleted. -/
theorem filter_erase_jump (rules : List Rule) :
    (rules.erase JUMP).filter (· ≠ JUMP) = rules.filter (· ≠ JUMP) := by
  rw [← List.erase_filter, List.erase_of_not_mem (by simp)]

theorem Untouched.refl (fw : Firewall) : Untouched fw fw := ⟨rfl, fun _ _ => rfl⟩

theorem Untouched.trans {fw'' : Firewall} (h : Untouched fw fw') (h' : Untouched fw' fw'') :
    Untouched fw fw'' :=
  ⟨h'.input.trans h.input, fun chain hc => (h'.chains chain hc).trans (h.chains chain hc)⟩

/-- The chain of the launcher may change. -/
theorem Untouched.setChain (fw : Firewall) (rules : Option (List Rule)) :
    Untouched fw (fw.setChain DISCOVERY_CHAIN rules) :=
  ⟨rfl, fun _ hc => Function.update_of_ne hc _ _⟩

/-- An operation on the launcher's own, done or refused. -/
theorem Own.untouched (hd : Documented iptables) {operation : Iptables} {r : Reply}
    (ho : Own operation) (he : iptables fw operation r fw') : Untouched fw fw' := by
  by_cases hs : r.status = 0
  case neg => exact hd.refused he hs ▸ .refl fw
  cases operation with
  | newChain chain =>
      obtain rfl : chain = DISCOVERY_CHAIN := ho
      exact (hd.newChain he hs).2 ▸ .setChain ..
  | checkInput rule => exact (hd.checkInput he hs).2 ▸ .refl fw
  | check chain rule => exact hd.check he hs ▸ .refl fw
  | insertInput rule =>
      obtain rfl : rule = JUMP := ho
      rw [hd.insertInput he hs]
      exact ⟨by simp, fun _ _ => rfl⟩
  | append chain rule =>
      obtain rfl : chain = DISCOVERY_CHAIN := ho
      obtain ⟨rules, -, rfl⟩ := hd.append he hs
      exact .setChain ..
  | flush chain =>
      obtain rfl : chain = DISCOVERY_CHAIN := ho
      exact (hd.flush he hs).2 ▸ .setChain ..
  | deleteInput rule =>
      obtain rfl : rule = JUMP := ho
      rw [(hd.deleteInput he hs).2]
      exact ⟨filter_erase_jump _, fun _ _ => rfl⟩
  | deleteChain chain =>
      obtain rfl : chain = DISCOVERY_CHAIN := ho
      exact (hd.deleteChain he hs).2 ▸ .setChain ..

/-- A command that is not `iptables`, or one on the launcher's own. -/
def OwnLine (c : Line) : Prop := ∀ operation, c = .iptables operation → Own operation

/-- A quiet command is one of the launcher's own. -/
theorem Quiet.own {c : Line} (hc : Quiet c) : OwnLine c :=
  fun operation ho => absurd ho (hc operation)

/-- The launcher's own commands touch nothing else. -/
theorem OwnLine.effect (hd : Documented iptables) {c : Line} {r : Reply} (hc : OwnLine c)
    (he : Effect iptables fw c r fw') : Untouched fw fw' := by
  by_cases hq : Quiet c
  · exact effect_quiet hq he ▸ .refl fw
  · obtain ⟨operation, rfl⟩ := not_forall_not.mp hq
    exact (hc operation rfl).untouched hd he

theorem own_runs (operation : Iptables) (ho : Own operation) :
    (runs (.iptables operation)).Only OwnLine Returned :=
  ⟨fun _ he => Line.iptables.inj he ▸ ho, fun _ => trivial⟩

theorem own_test (operation : Iptables) (ho : Own operation) :
    (test (.iptables operation)).Only OwnLine Returned :=
  ⟨fun _ he => Line.iptables.inj he ▸ ho, fun _ => trivial⟩

section Own

variable {α γ : Type}

theorem own_quiet {E : Except Nat α → Prop} {p : Shell α} (hp : p.Only Quiet E) :
    p.Only OwnLine E :=
  hp.mono (fun _ hc => hc.own) fun _ he => he

/-- The rule is removed by them. -/
theorem own_remove : remove_discovery_rule.Only OwnLine Returned :=
  (own_runs (.deleteInput JUMP) rfl).seq fun _ =>
    (own_runs (.flush DISCOVERY_CHAIN) rfl).seq fun _ =>
      (own_runs (.deleteChain DISCOVERY_CHAIN) rfl).seq fun _ =>
        own_quiet (only_runs (by simp [Quiet]))

/-- The rule is installed by them. -/
theorem own_install : install_discovery_rule.Only OwnLine Returned := by
  have hrule : (runs (.iptables (.append DISCOVERY_CHAIN DISCOVERY_RULE)) >>= fun _ =>
      test (.iptables (.check DISCOVERY_CHAIN DISCOVERY_RULE)) >>= fun verified =>
        if verified then
          runs (.log ("Discovery firewall rule installed: " ++ DISCOVERY_RULE.options ++
            " -j ACCEPT"))
        else runs (.log "WARNING: discovery firewall rule not verified")).Only OwnLine Returned := by
    refine (own_runs (.append DISCOVERY_CHAIN DISCOVERY_RULE) rfl).seq fun _ => ?_
    refine (own_test (.check DISCOVERY_CHAIN DISCOVERY_RULE) rfl).seq fun verified => ?_
    split
    · exact own_quiet (only_runs (by simp [Quiet]))
    · exact own_quiet (only_runs (by simp [Quiet]))
  refine (own_runs (.newChain DISCOVERY_CHAIN) rfl).seq fun _ => ?_
  refine (own_test (.checkInput JUMP) rfl).seq fun present => ?_
  cases present with
  | true => exact hrule
  | false => exact (own_runs (.insertInput JUMP) rfl).seq fun _ => hrule

/-- So is all of a launch made of them. -/
theorem own_launch (rounds : Nat) : (o.launch rounds).Only OwnLine fun _ => True := by
  have hend (stopped : String) : (remove_discovery_rule >>= fun _ =>
      show_status stopped >>= fun _ => o.release_lock).Only OwnLine fun _ => True :=
    own_remove.seq fun _ => (own_quiet (only_show_status stopped)).seq fun _ =>
      (own_quiet only_release_lock).mono (fun _ hc => hc) fun _ _ => trivial
  have hrecord (child : String) : (o.recordChild child).Only OwnLine fun _ => True := by
    refine (own_quiet (only_test (by simp [Quiet]))).seq fun written => ?_
    split
    · exact (own_quiet (only_abandon child)).mono (fun _ hc => hc) fun _ _ => trivial
    · trivial
  refine Only.bind ((own_quiet only_prepare).mono (fun _ hc => hc) ?_)
  rintro (status | ⟨⟩) _
  · trivial
  refine (own_quiet (only_runs (by simp [Quiet]))).seq fun _ => ?_
  refine own_remove.seq fun _ => own_install.seq fun _ => ?_
  refine (own_quiet only_start).seq fun child => ?_
  refine Only.bind ((hrecord child).mono (fun _ hc => hc) ?_)
  rintro (status | ⟨⟩) _
  · trivial
  exact (own_quiet (only_supervise child rounds)).seq hend

end Own

/-- **Whatever `iptables` refuses and wherever the launches are cut**, the rules of others stay. -/
theorem firewall_frame (hd : Documented iptables)
    (hl : Relation.ReflTransGen (Launched iptables) fw fw') : Untouched fw fw' := by
  induction hl with
  | refl => exact .refl fw
  | @tail fw₁ fw₂ _ hstep ih =>
      obtain ⟨o, rounds, es, p, hr⟩ := hstep
      have hp : (o.launch rounds).Ensures (Effect iptables) (fun _ fw' => Untouched fw₁ fw')
          (fun _ _ _ => True) [] fw₁ :=
        (own_launch rounds).ensures (fun hc hi he => hi.trans (hc.effect hd he)) (.refl fw₁)
      exact ih.trans (hp.start hr).cut

/-- A launch next to the rules of the system. -/
theorem firewall_frame_system :
    let system : Firewall :=
      ⟨[⟨"-i lo", "ACCEPT"⟩], fun chain => if chain = "usb" then some [⟨"", "DROP"⟩] else none⟩
    Untouched system
      ((discovering.launch 1).interpret (kindle discovering true) system).2.2 :=
  firewall_frame reliable_applied.toDocumented
    (.single ⟨discovering, 1, _, _, run_kindle true _ _⟩)

end PaperPad.Launcher
