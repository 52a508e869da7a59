import Mathlib.Logic.Function.Basic
import PaperPad.Support.Script

/-!
# Deploy — Mtp

The deployment script `deploy-kindle-mtp.sh`: `install` puts a new extension on the Kindle, `update`
replaces an installed one and keeps the binary it had.  The Kindle is reached through `mtp-rs`
only, whose commands may fail at any point.

`Effect` is what the script relies on.  A `put` or an `rm` that fails leaves anything at its own
path, and a `put` that succeeds has read back what it wrote (`--verify`); of a listing that succeeds
it relies on every entry being in it.
-/

namespace PaperPad.Deploy

/-! ### The commands -/

/-- What the script runs; each `put` is one with `--verify`, each `rm` one with `--yes`. -/
inductive Command where
  | testFile (path : String)
  | testDirectory (path : String)
  | commandV (name : String)
  | ls (folder : String) (recursive : Bool)
  | mkdir (path : String)
  | put (source path : String) (replace : Bool)
  | get (path destination : String)
  | rm (path : String)
  | mktemp
  | removeTree (path : String)
  | shasum (path : String)
  | print (text : String)
  deriving DecidableEq

/-- The status of a command and the lines it has written. -/
structure Answer where
  status : Nat
  lines : List String
  deriving DecidableEq

/-- The text of `"$(…)"`. -/
def Answer.output (r : Answer) : String := "\n".intercalate r.lines

/-- A part of the script. -/
abbrev Shell := Script Command Answer

/-- The files of the computer, and the files and folders of the Kindle. -/
structure World (β : Type) where
  computer : String → Option β
  remote : String → Option β
  folders : String → Bool

/-- The characters that separate the fields of `awk`. -/
def isBlank (c : Char) : Bool := c = ' ' || c = '\t' || c = '\n'

/-- `$NF`. -/
def lastField (line : String) : List Char :=
  ((line.toList.reverse.dropWhile isBlank).takeWhile fun c => !isBlank c).reverse

/-- The name is one field. -/
def isField (name : String) : Bool := !name.isEmpty && name.toList.all fun c => !isBlank c

section Effect

variable {β : Type}

/-- The folder has an entry of this name. -/
def World.Entry (w : World β) (folder name : String) : Prop :=
  (w.remote (folder ++ "/" ++ name)).isSome ∨ w.folders (folder ++ "/" ++ name) = true

/-- A listing has every entry whose name is one field. -/
def World.Lists (w : World β) (folder : String) (lines : List String) : Prop :=
  ∀ name, isField name = true → w.Entry folder name →
    ∃ line ∈ lines, lastField line = name.toList

/-- What the commands may do. -/
def Effect (w : World β) (c : Command) (r : Answer) (w' : World β) : Prop :=
  match c with
  | .testFile path => w' = w ∧ (r.status = 0 ↔ (w.computer path).isSome)
  | .ls folder recursive =>
      w' = w ∧ (r.status = 0 → recursive = false → w.Lists folder r.lines)
  | .mkdir path => ∃ made, w' = { w with folders := Function.update w.folders path made }
  | .put source path _ =>
      ∃ content, w' = { w with remote := Function.update w.remote path content } ∧
        (r.status = 0 → content = w.computer source ∧ content.isSome)
  | .get path destination =>
      ∃ content, w' = { w with computer := Function.update w.computer destination content } ∧
        (r.status = 0 → content = w.remote path ∧ content.isSome)
  | .rm path =>
      ∃ content, w' = { w with remote := Function.update w.remote path content } ∧
        (r.status = 0 → content = none)
  | .mktemp =>
      w' = w ∧ (r.status = 0 → ∀ name, w.computer (r.output ++ "/" ++ name) = none)
  | .removeTree path =>
      ∃ computer, w' = { w with computer } ∧
        ∀ file, ¬ (path ++ "/").toList <+: file.toList → computer file = w.computer file
  | .testDirectory _ | .commandV _ | .shasum _ | .print _ => w' = w

end Effect

/-- A command under `set -e`. -/
def simple (c : Command) : Shell Answer :=
  .run c fun r => if r.status = 0 then .done r else .exit r.status

/-- A command whose status is tested. -/
def test (c : Command) : Shell Bool := .run c fun r => .done (r.status = 0)

/-- A message; one that cannot be written ends the script. -/
def printf (text : String) : Shell Unit := do
  let _ ← simple (.print text)

/-! ### The script -/

/-- The extension's folder on the Kindle, and what is in it. -/
def REMOTE_EXT : String := "/extensions/rust_x11_hello"
def REMOTE_BIN_DIR : String := REMOTE_EXT ++ "/bin"
def REMOTE_BIN : String := REMOTE_BIN_DIR ++ "/rust_x11_hello"
def REMOTE_STAGED_BIN : String := REMOTE_BIN ++ ".new"
def REMOTE_PREVIOUS_BIN : String := REMOTE_BIN ++ ".previous"

/-- The script's environment and its arguments, `MODE` and `CONFIRMATION`. -/
structure Settings where
  MTP_RS_BIN : String
  LOCAL_EXT : String
  MODE : String
  CONFIRMATION : String
  deriving DecidableEq

/-- The binary to deploy. -/
def Settings.LOCAL_BIN (o : Settings) : String := o.LOCAL_EXT ++ "/bin/rust_x11_hello"

/-- The text of a call that is none of the two modes. -/
def usage : Shell Unit :=
  printf ("Usage:\n  scripts/deploy-kindle-mtp.sh install\n" ++
    "  scripts/deploy-kindle-mtp.sh update --confirm-stopped\n\n" ++
    "install refuses to touch an existing /extensions/rust_x11_hello.\n" ++
    "update requires an explicit stopped-process confirmation and retains the\n" ++
    "previous binary as rust_x11_hello.previous using verified MTP readback/copy;\n" ++
    "it refuses to overwrite that backup.\n")

/-- With `pipefail`, a listing that fails is one without the name. -/
def remote_name_exists (folder name : String) : Shell Bool :=
  .run (.ls folder false) fun r =>
    .done (r.status = 0 && r.lines.any fun line => lastField line = name.toList)

/-- Refuse a package of which a file is missing. -/
def require_local_file (path : String) : Shell Unit := do
  if !(← test (.testFile path)) then
    printf ("ERROR: required package file is missing: " ++ path ++ "\n")
    .exit 1

/-- What the trap removes. -/
def cleanup_local_temp (UPDATE_TMP_DIR : String) : Shell Unit := do
  if UPDATE_TMP_DIR ≠ "" then
    if ← test (.testDirectory UPDATE_TMP_DIR) then
      let _ ← simple (.removeTree UPDATE_TMP_DIR)

namespace Settings

/-- The files beside the binary, each over what is there. -/
def upload_support_files (o : Settings) : Shell Unit := do
  let _ ← simple (.put (o.LOCAL_EXT ++ "/bin/run.sh") (REMOTE_BIN_DIR ++ "/run.sh") true)
  let _ ← simple (.put (o.LOCAL_EXT ++ "/bin/probe-fb.sh") (REMOTE_BIN_DIR ++ "/probe-fb.sh") true)
  let _ ← simple (.put (o.LOCAL_EXT ++ "/config.xml") (REMOTE_EXT ++ "/config.xml") true)

/-- A retired support file is removed, or the script warns. -/
def retire (name : String) : Shell Unit := do
  if ← remote_name_exists REMOTE_BIN_DIR name then
    if !(← test (.rm (REMOTE_BIN_DIR ++ "/" ++ name))) then
      printf ("WARNING: new menu installed, but retired " ++ name ++ " cleanup failed.\n")

/-- The menu, and then the scripts it no longer names. -/
def publish_menu (o : Settings) : Shell Unit := do
  let _ ← simple (.put (o.LOCAL_EXT ++ "/menu.json") (REMOTE_EXT ++ "/menu.json") true)
  retire "stop.sh"
  retire "show.sh"

/-- The script refuses its arguments with status 2. -/
def checkArguments (o : Settings) : Shell Unit := do
  if o.MODE = "install" then
    if o.CONFIRMATION ≠ "" then
      usage
      .exit 2
  else if o.MODE = "update" then
    if o.CONFIRMATION ≠ "--confirm-stopped" then
      printf "ERROR: update requires --confirm-stopped\n"
      usage
      .exit 2
  else
    usage
    .exit 2

/-- What the script needs on the computer. -/
def checkPackage (o : Settings) : Shell Unit := do
  require_local_file o.LOCAL_BIN
  require_local_file (o.LOCAL_EXT ++ "/bin/run.sh")
  require_local_file (o.LOCAL_EXT ++ "/bin/probe-fb.sh")
  require_local_file (o.LOCAL_EXT ++ "/config.xml")
  require_local_file (o.LOCAL_EXT ++ "/menu.json")
  if !(← test (.commandV o.MTP_RS_BIN)) then
    printf ("ERROR: mtp-rs executable not found: " ++ o.MTP_RS_BIN ++ "\n")
    .exit 1

/-- `install`: nothing is there yet. -/
def install (o : Settings) : Shell Unit := do
  let _ ← simple (.ls "/extensions" false)
  if ← remote_name_exists "/extensions" "rust_x11_hello" then
    printf ("ERROR: " ++ REMOTE_EXT ++ " already exists; install mode refuses replacement\n")
    .exit 1
  let _ ← simple (.mkdir REMOTE_EXT)
  let _ ← simple (.mkdir REMOTE_BIN_DIR)
  let _ ← simple (.put o.LOCAL_BIN REMOTE_BIN false)
  o.upload_support_files
  o.publish_menu

/-- `update` before it has a directory on the computer. -/
def stage (o : Settings) : Shell Unit := do
  let _ ← simple (.ls REMOTE_BIN_DIR false)
  if !(← remote_name_exists REMOTE_BIN_DIR "rust_x11_hello") then
    printf ("ERROR: installed binary is missing: " ++ REMOTE_BIN ++ "\n")
    .exit 1
  if ← remote_name_exists REMOTE_BIN_DIR "rust_x11_hello.previous" then
    printf ("ERROR: retained backup already exists: " ++ REMOTE_PREVIOUS_BIN ++ "\n")
    printf "Download and remove or rename it explicitly before another update.\n"
    .exit 1
  let _ ← simple (.put o.LOCAL_BIN REMOTE_STAGED_BIN true)

/-- The installed binary is copied to `REMOTE_PREVIOUS_BIN`. -/
def retain (PREVIOUS_LOCAL_BIN : String) : Shell Unit := do
  let _ ← simple (.get REMOTE_BIN PREVIOUS_LOCAL_BIN)
  let _ ← simple (.put PREVIOUS_LOCAL_BIN REMOTE_PREVIOUS_BIN false)

/-- The new binary takes the place of the installed one, or that one is put back. -/
def activate (o : Settings) (PREVIOUS_LOCAL_BIN : String) : Shell Unit := do
  if !(← test (.put o.LOCAL_BIN REMOTE_BIN true)) then
    printf "ERROR: activating staged binary failed; attempting verified rollback\n"
    if ← test (.put PREVIOUS_LOCAL_BIN REMOTE_BIN true) then
      printf "Rollback restored the previous binary.\n"
    else
      printf "ERROR: rollback failed; do not launch from KUAL.\n"
    .exit 1
  if !(← test (.rm REMOTE_STAGED_BIN)) then
    printf "WARNING: activated binary verified, but staged .new cleanup failed.\n"

/-- What follows in both modes. -/
def report (o : Settings) : Shell Unit := do
  let _ ← simple (.ls REMOTE_EXT true)
  printf "\nHost artifact checksum:\n"
  let _ ← simple (.shasum o.LOCAL_BIN)
  printf "\nDeployment transfer completed with mtp-rs readback verification.\n"
  printf "Runtime path: /mnt/us/extensions/rust_x11_hello/bin/rust_x11_hello\n"

/-- `update` with its directory: everything up to the exit of the script, whose trap removes the
directory.  Before it the trap finds `UPDATE_TMP_DIR` empty. -/
def replace (o : Settings) (UPDATE_TMP_DIR : String) : Shell Unit :=
  Script.onExit (do
    retain (UPDATE_TMP_DIR ++ "/rust_x11_hello.previous")
    o.upload_support_files
    o.activate (UPDATE_TMP_DIR ++ "/rust_x11_hello.previous")
    o.publish_menu
    o.report) (cleanup_local_temp UPDATE_TMP_DIR)

/-- `update`: stage and verify the new binary, keep the old one, activate. -/
def update (o : Settings) : Shell Unit := do
  o.stage
  o.replace (← simple .mktemp).output

/-- The whole script. -/
def deploy (o : Settings) : Shell Unit := do
  o.checkArguments
  o.checkPackage
  if o.MODE = "install" then
    o.install
    o.report
  else o.update

end Settings

end PaperPad.Deploy
