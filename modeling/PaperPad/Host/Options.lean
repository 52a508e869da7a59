import PaperPad.Support.Text

/-!
# Host — Options

The command line of `tools/paperspoon/src/main.rs`, `parse_options`.  A flag only switches the
forwarding off, wherever it stands (`foldl_parseArgument`), so what the positional arguments give
does not depend on where the flags are.

Whether the port was given is read from the port: while it is the default one, every argument that
is a number is taken for it.  Given the default port and a log file whose name is a number, the
log file is lost.
-/

namespace PaperPad.Host

/-- The port without one on the command line. -/
def DEFAULT_PORT : UInt16 := 5581

/-- The log file without one on the command line. -/
def DEFAULT_LOG_FILE : String := "paperspoon.log"

/-- Whether activations are forwarded by default. -/
def FORWARD_TO_HAMMERSPOON : Bool := true

/-- The flag that turns forwarding off. -/
def NO_FORWARD_URL : String := "--no-forward-url"

/-- What the command line says. -/
structure Options where
  port : UInt16
  logPath : String
  forwardUrl : Bool
  deriving DecidableEq

/-- `arg.parse()` of a port. -/
def parsePort (arg : String) : Option UInt16 := Text.parseU16 arg.toList

/-- The port of an argument, while the port is still the default one. -/
def takePort (o : Options) (arg : String) : Option UInt16 :=
  if o.port = DEFAULT_PORT then parsePort arg else none

/-- What one argument changes. -/
def parseArgument (o : Options) (arg : String) : Options :=
  if arg = NO_FORWARD_URL then { o with forwardUrl := false }
  else
    match takePort o arg with
    | some parsed => { o with port := parsed }
    | none => if o.logPath = DEFAULT_LOG_FILE then { o with logPath := arg } else o

/-- The options without arguments. -/
def defaultOptions : Options := ⟨DEFAULT_PORT, DEFAULT_LOG_FILE, FORWARD_TO_HAMMERSPOON⟩

/-- The options of a command line, whose first word is the program. -/
def parseOptions (args : List String) : Options := (args.drop 1).foldl parseArgument defaultOptions

/-! ### Arguments -/

section Arguments

variable {o : Options} {arg : String}

theorem parsePort_toString (p : UInt16) : parsePort (toString p) = some p := by
  have hlist : (toString p).toList = Nat.toDigits 10 p.toNat := Nat.toList_repr
  rw [parsePort, hlist, Text.parseU16_toDigits]

theorem parsePort_defaultLogFile : parsePort DEFAULT_LOG_FILE = none := by decide

/-- A positional argument neither reads nor changes whether URLs are forwarded. -/
theorem parseArgument_forwardUrl (o : Options) (forward : Bool) (hne : arg ≠ NO_FORWARD_URL) :
    parseArgument { o with forwardUrl := forward } arg =
      { parseArgument o arg with forwardUrl := forward } := by
  have htake : takePort { o with forwardUrl := forward } arg = takePort o arg := rfl
  rw [parseArgument, parseArgument, if_neg hne, if_neg hne, htake]
  cases takePort o arg with
  | some parsed => rfl
  | none =>
      dsimp only
      split
      · rfl
      · rfl

theorem forwardUrl_parseArgument (o : Options) (hne : arg ≠ NO_FORWARD_URL) :
    (parseArgument o arg).forwardUrl = o.forwardUrl := by
  have h := congrArg Options.forwardUrl (parseArgument_forwardUrl o o.forwardUrl hne)
  exact h

theorem foldl_forwardUrl {args : List String} (hne : NO_FORWARD_URL ∉ args) (o : Options)
    (forward : Bool) :
    args.foldl parseArgument { o with forwardUrl := forward } =
      { args.foldl parseArgument o with forwardUrl := forward } := by
  induction args generalizing o with
  | nil => rfl
  | cons arg args ih =>
      obtain ⟨harg, hargs⟩ := not_or.mp (mt List.mem_cons.mpr hne)
      rw [List.foldl_cons, parseArgument_forwardUrl o forward (Ne.symm harg), ih hargs,
        List.foldl_cons]

/-- The positional arguments. -/
def positional (args : List String) : List String := args.filter (· ≠ NO_FORWARD_URL)

theorem notMem_positional (args : List String) : NO_FORWARD_URL ∉ positional args := by
  intro h
  exact of_decide_eq_true (List.mem_filter.mp h).2 rfl

/-- **Flags commute with the other arguments.** -/
theorem foldl_parseArgument (args : List String) (o : Options) :
    args.foldl parseArgument o =
      { (positional args).foldl parseArgument o with
        forwardUrl := o.forwardUrl && decide (NO_FORWARD_URL ∉ args) } := by
  induction args generalizing o with
  | nil => simp [positional]
  | cons arg args ih =>
      rw [List.foldl_cons, ih]
      by_cases harg : arg = NO_FORWARD_URL
      · have hpos : positional (arg :: args) = positional args :=
          List.filter_cons_of_neg (by simpa using harg)
        have hmem : decide (NO_FORWARD_URL ∉ arg :: args) = false := by simp [harg]
        rw [hpos, hmem, parseArgument, if_pos harg, foldl_forwardUrl (notMem_positional args)]
        simp
      · have hpos : positional (arg :: args) = arg :: positional args :=
          List.filter_cons_of_pos (by simpa using harg)
        have hmem : decide (NO_FORWARD_URL ∉ arg :: args) = decide (NO_FORWARD_URL ∉ args) := by
          simp [Ne.symm harg]
        rw [hpos, hmem, List.foldl_cons, forwardUrl_parseArgument o harg]

end Arguments

/-! ### The documented form -/

section Documented

variable {p : UInt16} {f : String} {o : Options}

/-- A port is taken while the port is the default one. -/
theorem parseArgument_toString (h : o.port = DEFAULT_PORT) (hne : toString p ≠ NO_FORWARD_URL) :
    parseArgument o (toString p) = { o with port := p } := by
  rw [parseArgument, if_neg hne, takePort, if_pos h, parsePort_toString]

/-- A port and a log file. -/
theorem foldl_port_file (hport : toString p ≠ NO_FORWARD_URL) (hfile : f ≠ NO_FORWARD_URL) :
    [toString p, f].foldl parseArgument defaultOptions =
      match (if p = DEFAULT_PORT then parsePort f else none) with
      | some parsed => { defaultOptions with port := parsed }
      | none => { defaultOptions with port := p, logPath := f } := by
  rw [List.foldl_cons, parseArgument_toString rfl hport, List.foldl_cons, List.foldl_nil,
    parseArgument, if_neg hfile]
  rfl

/-- **What the documented form gives**, in every placement of the flags: the port and the log
file, unless the port is the default one and the log file's name is a number. -/
theorem parseOptions_documented {program : String} {rest : List String}
    (h : rest.filter (· ≠ NO_FORWARD_URL) = [toString p, f]) :
    parseOptions (program :: rest) = ⟨p, f, decide (NO_FORWARD_URL ∉ rest)⟩ ↔
      p ≠ DEFAULT_PORT ∨ parsePort f = none := by
  have hflags := notMem_positional rest
  rw [positional, h] at hflags
  obtain ⟨hport, hrest⟩ := not_or.mp (mt List.mem_cons.mpr hflags)
  have hfile := List.ne_of_not_mem_cons hrest
  have hparse : parseOptions (program :: rest) = rest.foldl parseArgument defaultOptions := rfl
  rw [hparse, foldl_parseArgument, positional, h, foldl_port_file (Ne.symm hport) (Ne.symm hfile)]
  constructor
  · intro heq
    by_contra hnot
    obtain ⟨hp, hf⟩ := not_or.mp hnot
    obtain ⟨parsed, hparsed⟩ := Option.ne_none_iff_exists'.mp hf
    rw [if_pos (not_not.mp hp), hparsed] at heq
    -- the log file is the default one, which is not a number
    have hlog : DEFAULT_LOG_FILE = f := congrArg Options.logPath heq
    rw [← hlog, parsePort_defaultLogFile] at hparsed
    cases hparsed
  · intro hcond
    have hnone : (if p = DEFAULT_PORT then parsePort f else none) = none := by
      rcases hcond with hp | hf
      · exact if_neg hp
      · rw [hf, ite_self]
    rw [hnone]
    rfl

/-- A port other than the default one, with a flag before and after. -/
theorem parseOptions_documented_flags :
    parseOptions ["paperspoon", "--no-forward-url", "5582", "8080", "--no-forward-url"] =
      ⟨5582, "8080", false⟩ :=
  (@parseOptions_documented 5582 "8080" "paperspoon"
    ["--no-forward-url", "5582", "8080", "--no-forward-url"] (by decide)).mpr (.inl (by decide))

/-- The default port and a log file named by a number: the number is taken for the port. -/
theorem parseOptions_number :
    [toString DEFAULT_PORT, "8080"].filter (· ≠ NO_FORWARD_URL) = [toString DEFAULT_PORT, "8080"] ∧
      parseOptions ["paperspoon", toString DEFAULT_PORT, "8080"] =
        ⟨8080, DEFAULT_LOG_FILE, true⟩ ∧
      parseOptions ["paperspoon", toString DEFAULT_PORT, "8080"] ≠
        ⟨DEFAULT_PORT, "8080", decide (NO_FORWARD_URL ∉ [toString DEFAULT_PORT, "8080"])⟩ := by
  decide

end Documented

end PaperPad.Host
