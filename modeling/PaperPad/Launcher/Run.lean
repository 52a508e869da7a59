import PaperPad.Launcher.Lock
import PaperPad.Support.Script

/-!
# Launcher — Run

The launcher script `bin/run.sh`, a definition for each of its functions: the refusals, the
discovery rule of the firewall, the child and its PID file, and the end.  The script runs without
`set -e`; a command that fails only answers so.

The firewall is the one of `iptables`: a chain is a list of rules.  What `iptables` answers and does
is no part of the script; `Documented` and `Reliable` say what is relied on.
-/

namespace PaperPad.Launcher

/-! ### The firewall -/

/-- The options of a rule and its target. -/
structure Rule where
  options : String
  target : String
  deriving DecidableEq

/-- The rules of `INPUT`, and the other chains by name; of these no rule goes to a chain. -/
structure Firewall where
  input : List Rule
  chains : String → Option (List Rule)

/-- The operations of `iptables` the script uses, on `INPUT` and on one chain. -/
inductive Iptables where
  | newChain (chain : String)
  | checkInput (rule : Rule)
  | insertInput (rule : Rule)
  | append (chain : String) (rule : Rule)
  | check (chain : String) (rule : Rule)
  | deleteInput (rule : Rule)
  | flush (chain : String)
  | deleteChain (chain : String)
  deriving DecidableEq

namespace Firewall

/-- The same firewall with another chain of this name, or with none. -/
def setChain (fw : Firewall) (chain : String) (rules : Option (List Rule)) : Firewall :=
  { fw with chains := Function.update fw.chains chain rules }

/-- Whether a rule of `INPUT` goes to the chain. -/
def Referenced (fw : Firewall) (chain : String) : Bool :=
  fw.input.any fun rule => rule.target = chain

end Firewall

/-! ### The commands -/

/-- What the script runs. -/
inductive Line where
  | mkdirParents (path : String)
  | mkdir (path : String)
  | rmdir (path : String)
  | rm (path : String)
  | mv (path destination : String)
  | isFile (path : String)
  | isDirectory (path : String)
  | isReadable (path : String)
  | readlink (path : String)
  | firstLine (path : String)
  | firstArgument (path : String)
  | write (path text : String)
  | log (text : String)
  | chmod (path : String)
  | commandV (name : String)
  | eips (row : Nat) (text : String)
  | iptables (operation : Iptables)
  | killZero (pid : String)
  | killTerm (pid : String)
  | spawn (companion : Option String)
  | spawnWatchdog (child : String)
  | killWatchdog (pid : String)
  | wait (pid : String)
  | waitForever (pid : String)
  deriving DecidableEq

/-- The status of a command and its text, without what the script strips of it. -/
structure Reply where
  status : Nat
  text : String
  deriving DecidableEq

/-- A part of the script. -/
abbrev Shell := Script Line Reply

/-- A command whose status is tested. -/
def test (c : Line) : Shell Bool := .run c fun r => .done (r.status = 0)

/-- A command whose status is not looked at. -/
def runs (c : Line) : Shell Unit := .run c fun _ => .done ()

/-- `"$(…)"`. -/
def output (c : Line) : Shell String := .run c fun r => .done r.text

/-! ### The script -/

/-- The names the script begins with, and its process id. -/
structure Settings where
  EXT_DIR : String
  COMPANION_HOST : String
  WATCHDOG_SECONDS : String
  self : Nat
  deriving DecidableEq

/-- `''|0|*[!0-9]*` is not a time. -/
def timeOr (default text : String) : String :=
  if text = "" ∨ text = "0" ∨ ¬ text.toList.all Char.isDigit then default else text

namespace Settings

variable (o : Settings)

/-- The files of the extension. -/
def BIN : String := o.EXT_DIR ++ "/bin/rust_x11_hello"
def PID_FILE : String := o.EXT_DIR ++ "/rust_x11_hello.pid"
def STATUS_FILE : String := o.EXT_DIR ++ "/rust_x11_hello.status"
def WATCHDOG_MARKER : String := o.EXT_DIR ++ "/rust_x11_hello.watchdog"
def LOCK_DIR : String := o.EXT_DIR ++ "/rust_x11_hello.lock"
def LOCK_OWNER_FILE : String := o.LOCK_DIR ++ "/launcher.pid"

/-- How long PaperPad may run. -/
def watchdogSeconds : String := timeOr "90" o.WATCHDOG_SECONDS

/-- The PID that is recorded. -/
def read_pid_file : Shell String := output (.firstLine o.PID_FILE)

/-- The process has this executable, by its link or by its first argument. -/
def pid_is_expected (pid : String) : Shell Bool := do
  if !isPid pid.toList then
    return false
  if !(← test (.isDirectory ("/proc/" ++ pid))) then
    return false
  if (← output (.readlink ("/proc/" ++ pid ++ "/exe"))) = o.BIN then
    return true
  if ← test (.isReadable ("/proc/" ++ pid ++ "/cmdline")) then
    if (← output (.firstArgument ("/proc/" ++ pid ++ "/cmdline"))) = o.BIN then
      return true
  return false

/-- Replace the status file. -/
def write_status (text : String) : Shell Unit := do
  let STATUS_TMP := o.STATUS_FILE ++ ".tmp." ++ toString o.self
  if ← test (.write STATUS_TMP (text ++ "\n")) then
    runs (.mv STATUS_TMP o.STATUS_FILE)
  else
    runs (.rm STATUS_TMP)

/-- `release_lock` of a launcher that holds the lock. -/
def release_lock : Shell Unit := do
  runs (.rm o.LOCK_OWNER_FILE)
  runs (.rmdir o.LOCK_DIR)

/-- Take the lock, also from a launcher that is dead. -/
def acquire_lock : Shell Bool := do
  if ← test (.mkdir o.LOCK_DIR) then
    if ← test (.write o.LOCK_OWNER_FILE (toString o.self ++ "\n")) then
      return true
    runs (.rmdir o.LOCK_DIR)
    return false
  let LOCK_OWNER ← output (.firstLine o.LOCK_OWNER_FILE)
  if !isPid LOCK_OWNER.toList then
    runs (.log "ERROR: launcher lock exists without a verifiable owner; refusing launch")
    return false
  if ← test (.killZero LOCK_OWNER) then
    runs (.log ("ERROR: launcher already active with PID " ++ LOCK_OWNER))
    return false
  runs (.log ("Removing stale launcher lock owned by dead PID " ++ LOCK_OWNER))
  runs (.rm o.LOCK_OWNER_FILE)
  if !(← test (.rmdir o.LOCK_DIR)) then
    return false
  if ← test (.mkdir o.LOCK_DIR) then
    if ← test (.write o.LOCK_OWNER_FILE (toString o.self ++ "\n")) then
      return true
    runs (.rmdir o.LOCK_DIR)
  return false

end Settings

/-- Show a text on the panel. -/
def show_status (text : String) : Shell Unit := do
  if ← test (.commandV "eips") then
    runs (.eips 5 "Paperpad:")
    runs (.eips 7 text)

/-- The chain of the launcher. -/
def DISCOVERY_CHAIN : String := "PAPERPAD_DISCOVERY"

/-- The rule in it. -/
def DISCOVERY_RULE : Rule := ⟨"-i wlan0 -p udp --sport 5580 --dport 5582", "ACCEPT"⟩

/-- `-j "$DISCOVERY_CHAIN"`. -/
def JUMP : Rule := ⟨"", DISCOVERY_CHAIN⟩

/-- Make the chain, jump to it, and put the rule in it. -/
def install_discovery_rule : Shell Unit := do
  runs (.iptables (.newChain DISCOVERY_CHAIN))
  if !(← test (.iptables (.checkInput JUMP))) then
    runs (.iptables (.insertInput JUMP))
  runs (.iptables (.append DISCOVERY_CHAIN DISCOVERY_RULE))
  if ← test (.iptables (.check DISCOVERY_CHAIN DISCOVERY_RULE)) then
    runs (.log ("Discovery firewall rule installed: " ++ DISCOVERY_RULE.options ++ " -j ACCEPT"))
  else
    runs (.log "WARNING: discovery firewall rule not verified")

/-- Remove the jump and the chain. -/
def remove_discovery_rule : Shell Unit := do
  runs (.iptables (.deleteInput JUMP))
  runs (.iptables (.flush DISCOVERY_CHAIN))
  runs (.iptables (.deleteChain DISCOVERY_CHAIN))
  runs (.log "Discovery firewall rule removed")

namespace Settings

variable (o : Settings)

/-- The launcher refuses or gives up: the log, the status and the screen say so. -/
def refuse (logged : List String) (status shown : String) (holdsLock : Bool) : Shell Unit := do
  logged.forM fun text => runs (.log text)
  runs (.log "========================================")
  o.write_status status
  show_status shown
  if holdsLock then
    o.release_lock
  .exit 0

/-- The process of an earlier launch that is still there refuses. -/
def refuseLive (RECORDED_PID : String) : Shell Unit := do
  if ← o.pid_is_expected RECORDED_PID then
    o.refuse ["ERROR: expected process already running with PID " ++ RECORDED_PID]
      ("ALREADY RUNNING pid=" ++ RECORDED_PID) ("Already running: " ++ RECORDED_PID) true
  else if isPid RECORDED_PID.toList then
    if ← test (.killZero RECORDED_PID) then
      o.refuse ["ERROR: PID " ++ RECORDED_PID ++ " is live but its executable cannot be " ++
          "verified; refusing duplicate launch"]
        ("ERROR ambiguous live PID=" ++ RECORDED_PID) "Refused: ambiguous PID" true

/-- Remove the PID file of a process that is gone. -/
def removeStale (RECORDED_PID : String) : Shell Unit := do
  runs (.log ("Removing stale PID file (recorded value: " ++
    (if RECORDED_PID = "" then "empty" else RECORDED_PID) ++ ")"))
  if !(← test (.rm o.PID_FILE)) then
    o.refuse ["ERROR: cannot remove stale PID file: " ++ o.PID_FILE] "ERROR stale PID file"
      "ERROR stale PID file" true

/-- Refuse to start beside a PaperPad that runs. -/
def checkRecorded : Shell Unit := do
  let RECORDED_PID ← o.read_pid_file
  o.refuseLive RECORDED_PID
  o.removeStale RECORDED_PID

/-- Refuse to start without a binary. -/
def requireBinary : Shell Unit := do
  if !(← test (.isFile o.BIN)) then
    o.refuse ["ERROR: binary file does not exist: " ++ o.BIN,
        "Install the MTP extension at /extensions/rust_x11_hello"]
      "ERROR missing binary" "ERROR missing binary" false

/-- Refuse to start beside another launcher. -/
def requireLock : Shell Unit := do
  if !(← o.acquire_lock) then
    o.refuse [] "ERROR launcher lock unavailable" "Launch already active" false

/-- Everything that may refuse the launch. -/
def prepare : Shell Unit := do
  runs (.mkdirParents o.EXT_DIR)
  runs (.log "KUAL Paperpad launcher")
  o.requireBinary
  o.requireLock
  if ← test (.isFile o.PID_FILE) then
    o.checkRecorded

/-- Make the binary executable. -/
def makeExecutable : Shell Unit := do
  if !(← test (.chmod o.BIN)) then
    runs (.log "WARNING: chmod +x failed; attempting launch with existing mode")

/-- The child is started; its PID. -/
def start : Shell String := do
  o.makeExecutable
  if o.COMPANION_HOST ≠ "" then
    runs (.log ("PaperSpoon host: " ++ o.COMPANION_HOST))
    output (.spawn (some o.COMPANION_HOST))
  else
    runs (.log "PaperSpoon host: (unset, discovery)")
    output (.spawn none)

/-- A verified process is told to end. -/
def terminateChild (CHILD_PID : String) : Shell Unit := do
  if ← o.pid_is_expected CHILD_PID then
    runs (.killTerm CHILD_PID)

/-- The PID file cannot be written: the child is ended. -/
def abandon (CHILD_PID : String) : Shell Unit := do
  runs (.log ("ERROR: cannot write PID file; terminating child PID " ++ CHILD_PID))
  o.terminateChild CHILD_PID
  runs (.wait CHILD_PID)
  o.write_status "ERROR cannot write PID file"
  show_status "ERROR cannot write PID"
  o.release_lock
  .exit 0

/-- Write the PID file, or give up. -/
def recordChild (CHILD_PID : String) : Shell Unit := do
  if !(← test (.write o.PID_FILE (CHILD_PID ++ "\n"))) then
    o.abandon CHILD_PID

end Settings

/-- The loop over `wait`, which returns for every signal and for the end of the child; it returns
at most `rounds` times. -/
def waitChild (CHILD_PID : String) : Nat → Shell String
  | 0 => .run (.waitForever CHILD_PID) fun _ => .done ""
  | rounds + 1 => do
    let CHILD_STATUS ← output (.wait CHILD_PID)
    if ← test (.killZero CHILD_PID) then
      waitChild CHILD_PID rounds
    else
      return CHILD_STATUS

namespace Settings

variable (o : Settings)

/-- End the watchdog. -/
def stopWatchdog (WATCHDOG_PID : String) : Shell Unit := do
  if WATCHDOG_PID ≠ "" then
    runs (.killWatchdog WATCHDOG_PID)
    runs (.wait WATCHDOG_PID)

/-- Remove the PID file, if it is still the child's. -/
def forgetChild (CHILD_PID : String) : Shell Unit := do
  if (← o.read_pid_file) = CHILD_PID then
    runs (.rm o.PID_FILE)
  else
    runs (.log "WARNING: PID file changed before cleanup; leaving it untouched")

/-- From the child's PID to its end; what the screen is to say.  The watchdog is a process of its
own. -/
def supervise (CHILD_PID : String) (rounds : Nat) : Shell String := do
  runs (.log ("Child PID: " ++ CHILD_PID))
  o.write_status ("RUNNING pid=" ++ CHILD_PID ++ " watchdog=" ++ o.watchdogSeconds ++ "s")
  let WATCHDOG_PID ← output (.spawnWatchdog CHILD_PID)
  let CHILD_STATUS ← waitChild CHILD_PID rounds
  stopWatchdog WATCHDOG_PID
  o.forgetChild CHILD_PID
  let marked ← output (.firstLine o.WATCHDOG_MARKER)
  let END_REASON := if marked = CHILD_PID then "watchdog" else "process_exit"
  runs (.rm o.WATCHDOG_MARKER)
  runs (.log ("Rust binary exit status: " ++ CHILD_STATUS))
  runs (.log ("End reason: " ++ END_REASON))
  o.write_status ("STOPPED status=" ++ CHILD_STATUS ++ " reason=" ++ END_REASON)
  return "Stopped: " ++ CHILD_STATUS ++ " (" ++ END_REASON ++ ")"

/-- The whole script. -/
def launch (rounds : Nat) : Shell Unit := do
  o.prepare
  runs (.rm o.WATCHDOG_MARKER)
  remove_discovery_rule
  install_discovery_rule
  let CHILD_PID ← o.start
  o.recordChild CHILD_PID
  let stopped ← o.supervise CHILD_PID rounds
  remove_discovery_rule
  show_status stopped
  o.release_lock

end Settings

end PaperPad.Launcher
