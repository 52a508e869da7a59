import PaperPad.Host.Diagnostic
import PaperPad.Support.Fallible
import PaperPad.Support.Text

/-!
# Host — Stdin

The lines typed at the host, read by `parse_stdin_command` of `tools/paperspoon/src/diagnostic.rs`.

The parser reads a line twice.  `parse_jpeg_path` looks for `frame jpeg` itself, so that a path
keeps its inner white space; a line it leaves alone is split into words.  `Spells` is the grammar
of both passes in one relation: the passes take no line from each other, and a line is read as a
command exactly when it spells it (`stdin_grammar`).
-/

namespace PaperPad.Host

open Protocol Text

/-! ### Translation -/

namespace DiagnosticPattern

/-- The pattern with this name. -/
def parse (value : List Char) : Option DiagnosticPattern :=
  match String.ofList value with
  | "white" => some white
  | "black" => some black
  | "horizontal" => some horizontal
  | "checkerboard" => some checkerboard
  | "border" => some border
  | "corners" => some corners
  | "gray-gradient" => some grayGradient
  | "gray-bars" => some grayBars
  | _ => none

/-- The name of a pattern. -/
def name : DiagnosticPattern → String
  | white => "white"
  | black => "black"
  | horizontal => "horizontal"
  | checkerboard => "checkerboard"
  | border => "border"
  | corners => "corners"
  | grayGradient => "gray-gradient"
  | grayBars => "gray-bars"
  | gray _ => "gray"

end DiagnosticPattern

/-- A command as it is typed: a JPEG is still a path, and no picture is drawn yet. -/
inductive TypedCommand where
  | frame (frame : DiagnosticFrame)
  | jpeg (path : List Char)
  | nowPlaying
  | applicationFrame (width height : UInt16)
  deriving DecidableEq

/-- Why a line is no command. -/
inductive StdinError where
  | text (message : String)
  /-- `unknown stdin command {command:?}`. -/
  | unknownCommand (command : List Char)
  deriving DecidableEq

/-- The path of a `jpeg` line, with its inner white space. -/
def parseJpegPath (line : List Char) : Except StdinError (Option (List Char)) :=
  match breakAt isWhitespace (trim line) with
  | none => .ok none
  | some (command, rest) =>
      if command ≠ "frame".toList then .ok none
      else
        let frameArguments := trimStart rest
        if frameArguments = "jpeg".toList then .error (.text "usage: frame jpeg <path>")
        else
          match breakAt isWhitespace frameArguments with
          | none => .ok none
          | some (word, rest) =>
              if word ≠ "jpeg".toList then .ok none
              else
                let path := trim rest
                if path.isEmpty then .error (.text "usage: frame jpeg <path>")
                else .ok (some path)

/-- Two numbers around an `x`, neither zero. -/
def parseDimensions (dimensions : List Char) :
    Except StdinError {size : UInt16 × UInt16 // size.1 ≠ 0 ∧ size.2 ≠ 0} :=
  match splitOnce 'x' dimensions with
  | none => .error (.text "dimensions must use <width>x<height>")
  | some (widthText, heightText) =>
      match parseU16 widthText with
      | none => .error (.text s!"invalid frame width '{String.ofList widthText}'")
      | some width =>
          match parseU16 heightText with
          | none => .error (.text s!"invalid frame height '{String.ofList heightText}'")
          | some height =>
              if hzero : width = 0 ∨ height = 0 then
                .error (.text "frame dimensions must be nonzero")
              else .ok ⟨(width, height), not_or.mp hzero⟩

/-- The end of a frame line: one word for the dimensions. -/
def parseSized (pattern : DiagnosticPattern) (usage : String) :
    List (List Char) → Except StdinError TypedCommand
  | [dimensions] =>
      (parseDimensions dimensions).map fun size =>
        .frame ⟨pattern, size.val.1, size.val.2, size.property⟩
  | _ => .error (.text usage)

/-- What follows `frame` on a line without a path. -/
def parseFrame : List (List Char) → Except StdinError TypedCommand
  | [] => .error (.text "usage: frame <pattern> <width>x<height>")
  | patternName :: parts =>
      if patternName = "nowplaying".toList then
        if parts.isEmpty then .ok .nowPlaying else .error (.text "usage: frame nowplaying")
      else if patternName = "gray".toList then
        let usage := "usage: frame gray <0..255> <width>x<height>"
        match parts with
        | [] => .error (.text usage)
        | value :: parts =>
            match parseU8 value with
            | none => .error (.text "gray value must be an integer from 0 through 255")
            | some value => parseSized (.gray value) usage parts
      else
        match DiagnosticPattern.parse patternName with
        | none =>
            .error (.text (s!"unknown frame pattern '{String.ofList patternName}'; expected white, " ++
              "black, horizontal, checkerboard, border, corners, gray-gradient, gray-bars, gray, " ++
              "or jpeg <path>"))
        | some pattern => parseSized pattern "usage: frame <pattern> <width>x<height>" parts

/-- `parse_stdin_command`. -/
def parseStdinCommand (line : List Char) : Except StdinError TypedCommand :=
  match parseJpegPath line with
  | .error error => .error error
  | .ok (some path) => .ok (.jpeg path)
  | .ok none =>
      match words line with
      | [] => .error (.text "stdin command is empty")
      | command :: parts =>
          if command = "ui".toList then
            match parts with
            | [dimensions] =>
                (parseDimensions dimensions).map fun size =>
                  .applicationFrame size.val.1 size.val.2
            | _ => .error (.text "usage: ui <width>x<height>")
          else if command = "frame".toList then parseFrame parts
          else .error (.unknownCommand command)

/-- What the stdin thread makes of a line: an empty one is skipped. -/
def stdinLine (line : List Char) : Option (Except StdinError TypedCommand) :=
  let line := trim line
  if line.isEmpty then none else some (parseStdinCommand line)

/-! ### The grammar -/

/-- A width and a height around an `x`. -/
def SizeWord (width height : UInt16) (word : List Char) : Prop :=
  ∃ a b, word = a ++ 'x' :: b ∧ parseU16 a = some width ∧ parseU16 b = some height

/-- The words of a pattern: its name, and the value of a solid gray. -/
inductive PatternWords : DiagnosticPattern → List (List Char) → Prop
  | gray {value : UInt8} {word : List Char} (h : parseU8 word = some value) :
      PatternWords (.gray value) ["gray".toList, word]
  | named {pattern : DiagnosticPattern} (h : ∀ value, pattern ≠ .gray value) :
      PatternWords pattern [pattern.name.toList]

/-- A line that spells a command. -/
inductive Spells (line : List Char) : TypedCommand → Prop
  | frame {frame : DiagnosticFrame} {pattern : List (List Char)} {size : List Char}
      (hpattern : PatternWords frame.pattern pattern)
      (hsize : SizeWord frame.width frame.height size)
      (hwords : words line = "frame".toList :: (pattern ++ [size])) : Spells line (.frame frame)
  /-- Between its blanks a path is kept as it is typed. -/
  | jpeg {before g₁ g₂ path after : List Char} (hbefore : Blank before) (hg₁ : Blank g₁)
      (hne₁ : g₁ ≠ []) (hg₂ : Blank g₂) (hne₂ : g₂ ≠ []) (hpath : Bare path) (hafter : Blank after)
      (hline : line =
        before ++ (("frame".toList ++ (g₁ ++ ("jpeg".toList ++ (g₂ ++ path)))) ++ after)) :
      Spells line (.jpeg path)
  | nowPlaying (hwords : words line = ["frame".toList, "nowplaying".toList]) :
      Spells line .nowPlaying
  | applicationFrame {width height : UInt16} {size : List Char} (hw : width ≠ 0) (hh : height ≠ 0)
      (hsize : SizeWord width height size) (hwords : words line = ["ui".toList, size]) :
      Spells line (.applicationFrame width height)

/-! ### The path of a JPEG -/

section Path

variable {line before after g₁ g₂ path : List Char}

theorem isWord_frame : IsWord "frame".toList := by decide

theorem isWord_jpeg : IsWord "jpeg".toList := by decide

/-- What the path parser makes of a line that has one. -/
theorem parseJpegPath_of_path (hbefore : Blank before) (hg₁ : Blank g₁) (hne₁ : g₁ ≠ [])
    (hg₂ : Blank g₂) (hne₂ : g₂ ≠ []) (hpath : Bare path) (hafter : Blank after)
    (hline : line =
      before ++ (("frame".toList ++ (g₁ ++ ("jpeg".toList ++ (g₂ ++ path)))) ++ after)) :
    parseJpegPath line = .ok (some path) := by
  have harguments : Bare ("jpeg".toList ++ (g₂ ++ path)) := isWord_jpeg.bare.append hpath g₂
  have htrim : trim line = "frame".toList ++ (g₁ ++ ("jpeg".toList ++ (g₂ ++ path))) := by
    rw [hline, trim_of_bare (isWord_frame.bare.append harguments g₁) hbefore hafter]
  have hlonger : "jpeg".toList ++ (g₂ ++ path) ≠ "jpeg".toList := by
    rw [ne_eq, List.append_right_eq_self, List.append_eq_nil_iff, not_and]
    exact fun h => absurd h hne₂
  have htrimPath : trim (g₂ ++ path) = path := by
    have h := trim_of_bare hpath hg₂ (show Blank [] from nofun)
    rwa [List.append_nil] at h
  have hempty : path.isEmpty = false := List.isEmpty_eq_false_iff.mpr hpath.ne_nil
  simp only [parseJpegPath, htrim, breakAt_word isWord_frame hg₁ hne₁,
    trimStart_blank_append hg₁ harguments.head, if_neg hlonger,
    breakAt_word isWord_jpeg hg₂ hne₂, htrimPath, hempty]
  rfl

/-- What the path parser does: it leaves a line alone, finds a path, or refuses a line that has the
two words. -/
theorem parseJpegPath_cases (line : List Char) :
    parseJpegPath line = .ok none ∨
      (∃ path, parseJpegPath line = .ok (some path) ∧ Spells line (.jpeg path)) ∨
      (∃ error, parseJpegPath line = .error error ∧
        ∃ rest, words line = "frame".toList :: "jpeg".toList :: rest) := by
  obtain ⟨before, after, hbefore, hafter, hline⟩ := exists_trim line
  rw [← words_trim line, parseJpegPath]
  split
  · exact .inl rfl
  next command rest hbreak =>
  split
  · exact .inl rfl
  next hcommand =>
  obtain rfl := not_not.mp hcommand
  obtain ⟨g₁, hg₁, hne₁, -, htrim⟩ := of_breakAt_space hbreak
  rw [htrim] at hline ⊢
  rw [words_cons isWord_frame hg₁ hne₁]
  dsimp only
  split
  · next harguments =>
      rw [harguments, words_of_isWord isWord_jpeg]
      exact .inr (.inr ⟨_, rfl, _, rfl⟩)
  split
  · exact .inl rfl
  next word rest' hbreak' =>
  split
  · exact .inl rfl
  next hword =>
  obtain rfl := not_not.mp hword
  obtain ⟨g, hg, hne, -, harguments⟩ := of_breakAt_space hbreak'
  split
  · rw [harguments, words_cons isWord_jpeg hg hne]
    exact .inr (.inr ⟨_, rfl, _, rfl⟩)
  · next hpath =>
      have hbare := trim_bare (List.isEmpty_eq_false_iff.mp (Bool.eq_false_iff.mpr hpath))
      obtain ⟨g₂, g₃, hg₂, hg₃, hrest⟩ := exists_trim rest'
      obtain ⟨hsplit, -, c, blank, hblank, hc⟩ := breakAt_eq_some_iff.mp hbreak'
      have hne₂ : g₂ ≠ [] := by
        rintro rfl
        have hhead : (trim rest').head? = some c := by
          rw [List.nil_append] at hrest
          rw [← List.head?_append_of_ne_nil _ hbare.ne_nil, ← hrest, hblank]
          rfl
        rw [hbare.head c hhead] at hc
        cases hc
      refine .inr (.inl ⟨_, rfl, .jpeg hbefore hg₁ hne₁ hg₂ hne₂ hbare (hg₃.append hafter) ?_⟩)
      rw [hsplit] at hline
      rw [hline]
      conv_lhs => rw [hrest]
      simp only [List.append_assoc]

/-- A `jpeg` line begins with its two words. -/
theorem Spells.words_jpeg (h : Spells line (.jpeg path)) :
    ∃ rest, words line = "frame".toList :: "jpeg".toList :: rest := by
  cases h with
  | jpeg hbefore hg₁ hne₁ hg₂ hne₂ hpath hafter hline =>
      refine ⟨words path, ?_⟩
      rw [hline, words_blank_append hbefore, words_append_blank hafter,
        words_cons isWord_frame hg₁ hne₁, words_cons isWord_jpeg hg₂ hne₂]

end Path

/-! ### The words of the other commands -/

section Words

variable {line : List Char} {parts : List (List Char)} {command : TypedCommand}

/-- A name is read as its pattern. -/
theorem DiagnosticPattern.parse_eq_some_iff {value : List Char} {pattern : DiagnosticPattern} :
    DiagnosticPattern.parse value = some pattern ↔
      value = pattern.name.toList ∧ ∀ level, pattern ≠ .gray level := by
  constructor
  · intro h
    rw [DiagnosticPattern.parse] at h
    split at h <;> cases h
    all_goals
      next hvalue =>
        exact ⟨by rw [← String.toList_ofList (l := value), hvalue]; rfl, by simp⟩
  · rintro ⟨rfl, hgray⟩
    rw [DiagnosticPattern.parse, String.ofList_toList]
    cases pattern with
    | gray level => exact absurd rfl (hgray level)
    | _ => rfl

/-- The other words that may stand where a name does. -/
theorem DiagnosticPattern.name_ne {pattern : DiagnosticPattern}
    (h : ∀ level, pattern ≠ .gray level) : pattern.name.toList ≠ "nowplaying".toList ∧
      pattern.name.toList ≠ "gray".toList ∧ pattern.name.toList ≠ "jpeg".toList := by
  cases pattern with
  | gray level => exact absurd rfl (h level)
  | _ => decide +kernel

/-- A size is read exactly where it is spelled. -/
theorem parseDimensions_eq_ok_iff {word : List Char}
    {size : {size : UInt16 × UInt16 // size.1 ≠ 0 ∧ size.2 ≠ 0}} :
    parseDimensions word = .ok size ↔ SizeWord size.val.1 size.val.2 word := by
  constructor
  · intro h
    rw [parseDimensions] at h
    split at h
    · cases h
    next a b hsplit =>
    split at h
    · cases h
    next width hwidth =>
    split at h
    · cases h
    next height hheight =>
    split at h
    · cases h
    cases h
    exact ⟨a, b, (splitOnce_eq_some_iff.mp hsplit).1, hwidth, hheight⟩
  · rintro ⟨a, b, rfl, ha, hb⟩
    have hx : 'x' ∉ a := by
      obtain ⟨n, hn, -⟩ := Option.map_eq_some_iff.mp ha
      exact notMem_of_parseUnsigned hn rfl (by decide)
    have hsplit : splitOnce 'x' (a ++ 'x' :: b) = some (a, b) :=
      splitOnce_eq_some_iff.mpr ⟨rfl, hx⟩
    have hzero : ¬(size.val.1 = 0 ∨ size.val.2 = 0) := not_or.mpr size.property
    simp only [parseDimensions, hsplit, ha, hb, dif_neg hzero]

/-- A pattern needs one more word, its size. -/
theorem parseSized_eq_ok_iff {pattern : DiagnosticPattern} {usage : String} :
    parseSized pattern usage parts = .ok command ↔
      ∃ frame size, command = .frame frame ∧ frame.pattern = pattern ∧ parts = [size] ∧
        SizeWord frame.width frame.height size := by
  constructor
  · intro h
    rw [parseSized.eq_def] at h
    split at h
    · obtain ⟨size, hsize, rfl⟩ := Except.map_eq_ok.mp h
      exact ⟨_, _, rfl, rfl, rfl, parseDimensions_eq_ok_iff.mp hsize⟩
    · cases h
  · rintro ⟨⟨pattern, width, height, hzero⟩, size, rfl, rfl, rfl, hsize⟩
    have hok : parseDimensions size = .ok ⟨(width, height), hzero⟩ :=
      parseDimensions_eq_ok_iff.mpr hsize
    rw [parseSized, hok]
    rfl

/-- The words of a frame. -/
theorem parseFrame_eq_ok_iff : parseFrame parts = .ok command ↔
    (parts = ["nowplaying".toList] ∧ command = .nowPlaying) ∨
      ∃ frame pattern size, command = .frame frame ∧ PatternWords frame.pattern pattern ∧
        SizeWord frame.width frame.height size ∧ parts = pattern ++ [size] := by
  constructor
  · intro h
    cases parts with
    | nil => cases h
    | cons patternName parts =>
        rw [parseFrame] at h
        split at h
        · next hname =>
            split at h
            · next hend =>
                cases h
                exact .inl ⟨by rw [hname, List.isEmpty_iff.mp hend], rfl⟩
            · cases h
        split at h
        · next hname =>
            dsimp only at h
            split at h
            · cases h
            split at h
            · cases h
            next level hlevel =>
            obtain ⟨frame, size, rfl, hpattern, rfl, hsize⟩ := parseSized_eq_ok_iff.mp h
            exact .inr ⟨frame, _, size, rfl, by rw [hpattern]; exact .gray hlevel, hsize,
              by rw [hname]; rfl⟩
        · split at h
          · cases h
          next pattern hparse =>
          obtain ⟨hname, hgray⟩ := DiagnosticPattern.parse_eq_some_iff.mp hparse
          obtain ⟨frame, size, rfl, hpattern, rfl, hsize⟩ := parseSized_eq_ok_iff.mp h
          exact .inr ⟨frame, _, size, rfl, by rw [hpattern]; exact .named hgray, hsize,
            by rw [hname]; rfl⟩
  · rintro (⟨rfl, rfl⟩ | ⟨⟨pattern, width, height, hzero⟩, _, size, rfl, hpattern, hsize, rfl⟩)
    · rfl
    · cases hpattern with
      | gray hlevel =>
          simp only [List.cons_append, List.nil_append, parseFrame, hlevel]
          rw [if_neg (by decide +kernel), if_pos trivial]
          exact parseSized_eq_ok_iff.mpr ⟨_, size, rfl, rfl, rfl, hsize⟩
      | named hgray =>
          have hparse := DiagnosticPattern.parse_eq_some_iff.mpr ⟨rfl, hgray⟩
          simp only [List.cons_append, List.nil_append, parseFrame, hparse]
          rw [if_neg (DiagnosticPattern.name_ne hgray).1, if_neg (DiagnosticPattern.name_ne hgray).2.1]
          exact parseSized_eq_ok_iff.mpr ⟨_, size, rfl, rfl, rfl, hsize⟩

/-- A line whose words are not those of a path is left to the word parser. -/
theorem parseJpegPath_of_words
    (h : ∀ rest, words line ≠ "frame".toList :: "jpeg".toList :: rest) :
    parseJpegPath line = .ok none := by
  rcases parseJpegPath_cases line with hnone | ⟨path, -, hspells⟩ | ⟨error, -, rest, hrest⟩
  · exact hnone
  · obtain ⟨rest, hrest⟩ := hspells.words_jpeg
    exact absurd hrest (h rest)
  · exact absurd hrest (h rest)

/-- The words after `frame` that `parseFrame` reads are not those of a path. -/
theorem parts_ne_jpeg (h : parseFrame parts = .ok command) (rest : List (List Char)) :
    parts ≠ "jpeg".toList :: rest := by
  rintro rfl
  rcases parseFrame_eq_ok_iff.mp h with ⟨hparts, -⟩ | ⟨frame, _, size, -, hpattern, -, hparts⟩
  · have hne : "jpeg".toList ≠ "nowplaying".toList := by decide +kernel
    exact hne (List.cons.inj hparts).1
  · generalize frame.pattern = pattern at hpattern
    cases hpattern with
    | gray hlevel =>
        have hne : "jpeg".toList ≠ "gray".toList := by decide +kernel
        exact hne (List.cons.inj hparts).1
    | named hgray => exact (DiagnosticPattern.name_ne hgray).2.2 (List.cons.inj hparts).1.symm

/-- The second pass of the parser. -/
theorem parseStdinCommand_of_frame (hwords : words line = "frame".toList :: parts)
    (h : parseFrame parts = .ok command) : parseStdinCommand line = .ok command := by
  have hnone : parseJpegPath line = .ok none := parseJpegPath_of_words fun rest hrest =>
    parts_ne_jpeg h rest (List.cons.inj (hwords.symm.trans hrest)).2
  have hui : "frame".toList ≠ "ui".toList := by decide +kernel
  simp only [parseStdinCommand, hnone, hwords, if_neg hui]
  exact h

/-- **A line is read as a command exactly when it spells it.**. -/
theorem parseStdinCommand_eq_ok_iff : parseStdinCommand line = .ok command ↔ Spells line command := by
  constructor
  · intro h
    rcases parseJpegPath_cases line with hnone | ⟨path, hpath, hspells⟩ | ⟨error, herror, -⟩
    · simp only [parseStdinCommand, hnone] at h
      split at h
      · cases h
      next word parts hwords =>
      split at h
      · next hui =>
          rw [hui] at hwords
          split at h
          · obtain ⟨size, hsize, rfl⟩ := Except.map_eq_ok.mp h
            exact .applicationFrame size.property.1 size.property.2
              (parseDimensions_eq_ok_iff.mp hsize) hwords
          · cases h
      split at h
      · next hframe =>
          rw [hframe] at hwords
          rcases parseFrame_eq_ok_iff.mp h with ⟨rfl, rfl⟩ | ⟨f, _, _, rfl, hpattern, hsize, rfl⟩
          · exact .nowPlaying hwords
          · exact .frame hpattern hsize hwords
      · cases h
    · simp only [parseStdinCommand, hpath] at h
      cases h
      exact hspells
    · simp only [parseStdinCommand, herror] at h
      cases h
  · intro h
    cases h with
    | frame hpattern hsize hwords =>
        exact parseStdinCommand_of_frame hwords
          (parseFrame_eq_ok_iff.mpr (.inr ⟨_, _, _, rfl, hpattern, hsize, rfl⟩))
    | jpeg hbefore hg₁ hne₁ hg₂ hne₂ hpath hafter hline =>
        have h := parseJpegPath_of_path hbefore hg₁ hne₁ hg₂ hne₂ hpath hafter hline
        simp only [parseStdinCommand, h]
    | nowPlaying hwords =>
        exact parseStdinCommand_of_frame hwords (parseFrame_eq_ok_iff.mpr (.inl ⟨rfl, rfl⟩))
    | applicationFrame hw hh hsize hwords =>
        have hne : "ui".toList ≠ "frame".toList := by decide +kernel
        have hnone : parseJpegPath line = .ok none := parseJpegPath_of_words fun rest hrest =>
          hne (List.cons.inj (hwords.symm.trans hrest)).1
        have hok : parseDimensions _ = .ok ⟨(_, _), hw, hh⟩ :=
          parseDimensions_eq_ok_iff.mpr hsize
        simp only [parseStdinCommand, hnone, hwords, hok]
        rfl

end Words

/-! ### The lines of the loop -/

section Lines

variable {line : List Char} {command : TypedCommand}

/-- The blanks around a line spell nothing. -/
theorem spells_trim_iff : Spells (trim line) command ↔ Spells line command := by
  constructor
  · intro h
    cases h with
    | frame hpattern hsize hwords => exact .frame hpattern hsize (words_trim line ▸ hwords)
    | nowPlaying hwords => exact .nowPlaying (words_trim line ▸ hwords)
    | applicationFrame hw hh hsize hwords =>
        exact .applicationFrame hw hh hsize (words_trim line ▸ hwords)
    | jpeg hbefore hg₁ hne₁ hg₂ hne₂ hpath hafter hline =>
        obtain ⟨g, g', hg, hg', hline'⟩ := exists_trim line
        refine .jpeg (hg.append hbefore) hg₁ hne₁ hg₂ hne₂ hpath (hafter.append hg') ?_
        rw [hline] at hline'
        rw [hline']
        simp only [List.append_assoc]
  · intro h
    cases h with
    | frame hpattern hsize hwords => exact .frame hpattern hsize ((words_trim line).trans hwords)
    | nowPlaying hwords => exact .nowPlaying ((words_trim line).trans hwords)
    | applicationFrame hw hh hsize hwords =>
        exact .applicationFrame hw hh hsize ((words_trim line).trans hwords)
    | @jpeg _ g₁ g₂ path _ hbefore hg₁ hne₁ hg₂ hne₂ hpath hafter hline =>
        have hnil : Blank [] := fun c hc => absurd hc List.not_mem_nil
        have hbare := isWord_frame.bare.append (isWord_jpeg.bare.append hpath g₂) g₁
        refine .jpeg hnil hg₁ hne₁ hg₂ hne₂ hpath hnil ?_
        rw [hline, trim_of_bare hbare hbefore hafter, List.nil_append, List.append_nil]

/-- A blank line is skipped. -/
theorem stdinLine_eq_none_iff : stdinLine line = none ↔ Blank line := by
  rw [← trim_eq_nil_iff, ← List.isEmpty_iff]
  by_cases h : (trim line).isEmpty = true <;> simp [stdinLine, h]

/-- A command is not blank. -/
theorem Spells.not_blank (h : Spells line command) : ¬Blank line := by
  intro hblank
  have hnil := words_blank hblank
  cases h with
  | jpeg hbefore hg₁ hne₁ hg₂ hne₂ hpath hafter hline =>
      obtain ⟨rest, hrest⟩ := words_jpeg (.jpeg hbefore hg₁ hne₁ hg₂ hne₂ hpath hafter hline)
      rw [hnil] at hrest
      cases hrest
  | _ =>
      next hwords =>
        rw [hnil] at hwords
        cases hwords

/-- The loop reads what the parser does. -/
theorem stdinLine_eq_ok_iff : stdinLine line = some (.ok command) ↔ Spells line command := by
  rw [← spells_trim_iff, ← parseStdinCommand_eq_ok_iff, stdinLine]
  split
  · next hempty =>
      refine iff_of_false nofun fun h => ?_
      refine (spells_trim_iff.mp (parseStdinCommand_eq_ok_iff.mp h)).not_blank ?_
      exact trim_eq_nil_iff.mp (List.isEmpty_iff.mp hempty)
  · rw [Option.some_inj]

end Lines

/-! ### Every command has a spelling -/

/-- A command some line spells. -/
def TypedCommand.Typeable : TypedCommand → Prop
  | .frame _ | .nowPlaying => True
  | .jpeg path => Bare path
  | .applicationFrame width height => width ≠ 0 ∧ height ≠ 0

/-- A size as it is usually written. -/
def spellSize (width height : UInt16) : List Char :=
  Nat.toDigits 10 width.toNat ++ 'x' :: Nat.toDigits 10 height.toNat

/-- The words of a pattern. -/
def DiagnosticPattern.spell : DiagnosticPattern → List (List Char)
  | gray level => ["gray".toList, Nat.toDigits 10 level.toNat]
  | pattern => [pattern.name.toList]

/-- The words of a command; of a path, as it is. -/
def TypedCommand.spell : TypedCommand → List (List Char)
  | .frame f => "frame".toList :: (f.pattern.spell ++ [spellSize f.width f.height])
  | .jpeg path => ["frame".toList, "jpeg".toList, path]
  | .nowPlaying => ["frame".toList, "nowplaying".toList]
  | .applicationFrame width height => ["ui".toList, spellSize width height]

/-- The usual line for a command. -/
def TypedCommand.line (command : TypedCommand) : List Char := [' '].intercalate command.spell

section Spelling

/-- The usual word of a size spells it. -/
theorem sizeWord_spellSize (width height : UInt16) :
    SizeWord width height (spellSize width height) :=
  ⟨_, _, rfl, parseU16_toDigits width, parseU16_toDigits height⟩

theorem isWord_spellSize (width height : UInt16) : IsWord (spellSize width height) := by
  have hdigits (n : Nat) := isWord_toDigits (b := 10) (by decide) n
  have hx : IsWord ['x'] := by decide
  have h := ((hdigits width.toNat).append hx).append (hdigits height.toNat)
  rwa [List.append_assoc] at h

/-- The usual words of a pattern spell it. -/
theorem DiagnosticPattern.patternWords_spell (pattern : DiagnosticPattern) :
    PatternWords pattern pattern.spell := by
  cases pattern with
  | gray level => exact .gray (parseU8_toDigits level)
  | _ => exact .named (by simp)

theorem DiagnosticPattern.isWord_spell (pattern : DiagnosticPattern) :
    ∀ word ∈ pattern.spell, IsWord word := by
  have hnames : ∀ name ∈ ["gray", "white", "black", "horizontal", "checkerboard", "border",
      "corners", "gray-gradient", "gray-bars"], IsWord name.toList := by decide +kernel
  cases pattern with
  | gray level =>
      intro word hword
      rcases List.mem_cons.mp hword with rfl | hword
      · exact hnames "gray" (by simp)
      · rw [List.mem_singleton.mp hword]
        exact isWord_toDigits (by decide) _
  | _ =>
      intro word hword
      rw [List.mem_singleton.mp hword]
      exact hnames _ (by simp [DiagnosticPattern.name])

/-- The usual line for a command spells it. -/
theorem spells_line {command : TypedCommand} (h : command.Typeable) :
    Spells command.line command := by
  cases command with
  | frame frame =>
      refine .frame frame.pattern.patternWords_spell (sizeWord_spellSize _ _)
        (words_intercalate fun word hword => ?_)
      rcases List.mem_cons.mp hword with rfl | hword
      · exact isWord_frame
      rcases List.mem_append.mp hword with hword | hword
      · exact frame.pattern.isWord_spell word hword
      · rw [List.mem_singleton.mp hword]
        exact isWord_spellSize _ _
  | jpeg path =>
      have hnil : Blank [] := by decide
      have hspace : Blank [' '] := by decide
      refine .jpeg hnil hspace (by simp) hspace (by simp) h hnil ?_
      simp only [TypedCommand.line, TypedCommand.spell, List.intercalate_cons_cons,
        List.intercalate_singleton, List.nil_append, List.append_nil, List.append_assoc]
  | nowPlaying => exact .nowPlaying (words_intercalate (by decide +kernel))
  | applicationFrame width height =>
      refine .applicationFrame h.1 h.2 (sizeWord_spellSize width height)
        (words_intercalate fun word hword => ?_)
      rcases List.mem_cons.mp hword with rfl | hword
      · exact (by decide +kernel : IsWord "ui".toList)
      · rw [List.mem_singleton.mp hword]
        exact isWord_spellSize width height

/-- What a line spells can be typed. -/
theorem Spells.typeable {line : List Char} {command : TypedCommand} (h : Spells line command) :
    command.Typeable := by
  cases h with
  | jpeg _ _ _ _ _ hpath _ _ => exact hpath
  | applicationFrame hw hh _ _ => exact ⟨hw, hh⟩
  | _ => trivial

end Spelling

/-- **The lines of the host**: the loop skips a line exactly when it is blank, reads a line as a
command exactly when it spells it, however the two passes of the parser take it, and reads a
command from its usual line exactly when some line is read as it. -/
theorem stdin_grammar :
    (∀ line, stdinLine line = none ↔ Blank line) ∧
      (∀ line command, stdinLine line = some (.ok command) ↔ Spells line command) ∧
      (∀ line command command', Spells line command → Spells line command' → command = command') ∧
      ∀ command, stdinLine command.line = some (.ok command) ↔
        ∃ line, stdinLine line = some (.ok command) := by
  refine ⟨fun _ => stdinLine_eq_none_iff, fun _ _ => stdinLine_eq_ok_iff, fun _ _ _ h h' => ?_,
    fun command => ⟨fun h => ⟨_, h⟩, ?_⟩⟩
  · have heq := (stdinLine_eq_ok_iff.mpr h).symm.trans (stdinLine_eq_ok_iff.mpr h')
    cases heq
    rfl
  · rintro ⟨line, h⟩
    exact stdinLine_eq_ok_iff.mpr (spells_line (stdinLine_eq_ok_iff.mp h).typeable)

end PaperPad.Host
