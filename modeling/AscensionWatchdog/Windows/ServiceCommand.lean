import AscensionWatchdog.Foundation.Checked
import AscensionWatchdog.Foundation.Text

/-!
# The command line of the Windows service

The service control manager stores the command line of the service as one text. The text is
written with the quoting rules of Windows and read back by a strict parser, which takes only the
text that the same rules write for what it read.

The two sides are inverse to each other: what is read of quoted arguments is the arguments
(`parse_quoted`), and a command line is taken exactly if it is one that is rendered
(`service_command_line_iff`). The induction is over the characters of an argument, with the
backslashes that are not written yet on the one side and those that are not interpreted yet on
the other.
-/

namespace AscensionWatchdog.Windows

open Foundation

def maxCommandLineUtf16 : Nat := 32767

def maxExecutableChars : Nat := 32768

def maxConfigChars : Nat := 512

structure ServiceCommandLine where
  executable : List Char
  config : List Char
deriving Repr, DecidableEq

structure ServiceCommandError where
  message : String
deriving Repr, DecidableEq

/-! ### Writing -/

def backslashes (n : Nat) : List Char :=
  List.replicate n '\\'

/-- The loop of `quoteWindows`, with the backslashes that were read and not yet written. A text
has fewer than `2 ^ 63` characters, so that the counts in the source do not saturate. -/
def quoteRest (slashes : Nat) : List Char → List Char
  | [] => backslashes (slashes * 2) ++ ['"']
  | character :: rest =>
    if character = '\\' then
      quoteRest (slashes + 1) rest
    else if character = '"' then
      backslashes (slashes * 2 + 1) ++ character :: quoteRest 0 rest
    else
      backslashes slashes ++ character :: quoteRest 0 rest

/-- Writes one argument. -/
def quoteWindows (value : List Char) : List Char :=
  if value.isEmpty || value.any (fun character => isWhitespace character || character == '"') then
    '"' :: quoteRest 0 value
  else
    value

/-- Writes the command line. -/
def renderServiceCommandLine (executable config : List Char) : List Char :=
  quoteWindows executable ++ " daemon --service --config ".toList ++ quoteWindows config

/-! ### Reading -/

def isSeparator (character : Char) : Bool :=
  character == ' ' || character == '\t' || character == '\n' || character == '\r' ||
    character == '\x0b'

/-- An argument that was read, whether its quote is still open, and what follows. -/
structure Scanned where
  argument : List Char
  quoted : Bool
  rest : List Char
deriving Repr, DecidableEq

/-- The loop over the characters of one argument, with the backslashes that were read just before
and that a quote would still halve. -/
def scanArgument (argument : List Char) (slashes : Nat) (quoted : Bool) : List Char → Scanned
  | [] => ⟨argument ++ backslashes slashes, quoted, []⟩
  | character :: rest =>
    if character = '\\' then
      scanArgument argument (slashes + 1) quoted rest
    else if character = '"' then
      if slashes % 2 = 1 then
        scanArgument (argument ++ backslashes (slashes / 2) ++ ['"']) 0 quoted rest
      else
        match quoted, rest with
        -- two quotes inside of quotes are a quote
        | true, '"' :: rest =>
          scanArgument (argument ++ backslashes (slashes / 2) ++ ['"']) 0 true rest
        | quoted, rest => scanArgument (argument ++ backslashes (slashes / 2)) 0 (!quoted) rest
    else if !quoted && isSeparator character then
      ⟨argument ++ backslashes slashes, quoted, character :: rest⟩
    else
      scanArgument (argument ++ backslashes slashes ++ [character]) 0 quoted rest

section Steps

variable {argument rest : List Char} {slashes : Nat} {quoted : Bool} {character : Char}

/-- One round of the loop. -/
theorem scanArgument_cons : scanArgument argument slashes quoted (character :: rest) =
    if character = '\\' then scanArgument argument (slashes + 1) quoted rest
    else if character = '"' then
      if slashes % 2 = 1 then
        scanArgument (argument ++ backslashes (slashes / 2) ++ ['"']) 0 quoted rest
      else
        match quoted, rest with
        | true, '"' :: rest =>
          scanArgument (argument ++ backslashes (slashes / 2) ++ ['"']) 0 true rest
        | quoted, rest => scanArgument (argument ++ backslashes (slashes / 2)) 0 (!quoted) rest
    else if !quoted && isSeparator character then
      ⟨argument ++ backslashes slashes, quoted, character :: rest⟩
    else
      scanArgument (argument ++ backslashes slashes ++ [character]) 0 quoted rest := by
  rw [scanArgument.eq_def]

theorem scan_backslash : scanArgument argument slashes quoted ('\\' :: rest) =
    scanArgument argument (slashes + 1) quoted rest := by
  rw [scanArgument_cons]
  rfl

theorem scan_escaped_quote (h : slashes % 2 = 1) :
    scanArgument argument slashes quoted ('"' :: rest) =
      scanArgument (argument ++ backslashes (slashes / 2) ++ ['"']) 0 quoted rest := by
  rw [scanArgument_cons]
  exact if_pos h

theorem scan_opening_quote (h : slashes % 2 = 0) :
    scanArgument argument slashes false ('"' :: rest) =
      scanArgument (argument ++ backslashes (slashes / 2)) 0 true rest := by
  simp [scanArgument_cons, h]

/-- A quote inside of quotes that another one does not follow. -/
theorem scan_closing_quote (h : slashes % 2 = 0) (hrest : rest.head? ≠ some '"') :
    scanArgument argument slashes true ('"' :: rest) =
      scanArgument (argument ++ backslashes (slashes / 2)) 0 false rest := by
  cases rest with
  | nil => simp [scanArgument_cons, h]
  | cons next rest =>
    have hnext : next ≠ '"' := by simpa using hrest
    rw [scanArgument_cons]
    simp [h, hnext]

theorem scan_separator (h : isSeparator character = true) :
    scanArgument argument slashes false (character :: rest) =
      ⟨argument ++ backslashes slashes, false, character :: rest⟩ := by
  have hne : character ≠ '\\' ∧ character ≠ '"' := by
    constructor <;> rintro rfl <;> simp [isSeparator] at h
  simp [scanArgument_cons, hne, h]

theorem scan_character (hbackslash : character ≠ '\\') (hquote : character ≠ '"')
    (h : quoted = true ∨ isSeparator character = false) :
    scanArgument argument slashes quoted (character :: rest) =
      scanArgument (argument ++ backslashes slashes ++ [character]) 0 quoted rest := by
  have hstays : (!quoted && isSeparator character) = false := by
    rcases h with rfl | h
    · rfl
    · rw [h, Bool.and_false]
  rw [scanArgument_cons]
  simp only [if_neg hbackslash, if_neg hquote, hstays, Bool.false_eq_true, if_false]

theorem length_scanArgument_le (argument : List Char) (slashes : Nat) (quoted : Bool)
    (characters : List Char) :
    (scanArgument argument slashes quoted characters).rest.length ≤ characters.length := by
  fun_induction scanArgument argument slashes quoted characters <;>
    simp_all only [List.length_cons, List.length_nil, Nat.le_refl] <;> omega

/-- The loop takes at least one character that does not separate arguments. -/
theorem length_scanArgument_lt (h : isSeparator character = false) (rest : List Char) :
    (scanArgument [] 0 false (character :: rest)).rest.length < (character :: rest).length := by
  have hle := fun argument slashes quoted => length_scanArgument_le argument slashes quoted rest
  rw [List.length_cons, Nat.lt_succ_iff]
  by_cases hbackslash : character = '\\'
  · rw [hbackslash, scan_backslash]
    exact hle _ _ _
  · by_cases hquote : character = '"'
    · rw [hquote, scan_opening_quote rfl]
      exact hle _ _ _
    · rw [scan_character hbackslash hquote (.inr h)]
      exact hle _ _ _

end Steps

/-- Reads the arguments of a command line. -/
def parseWindowsArguments (characters : List Char) :
    Except ServiceCommandError (List (List Char)) :=
  match _h : characters.dropWhile isSeparator with
  | [] => pure []
  | character :: rest => do
    let scanned := scanArgument [] 0 false (character :: rest)
    ensure (scanned.quoted = false)
      ⟨"Windows service command line contains an unterminated quote"⟩
    let arguments ← parseWindowsArguments scanned.rest
    pure (scanned.argument :: arguments)
termination_by characters.length
decreasing_by
  have hhead := List.head?_dropWhile_not isSeparator characters
  have hle := (List.dropWhile_sublist (l := characters) isSeparator).length_le
  rw [_h] at hhead hle
  have hlt := length_scanArgument_lt (by simpa using hhead) rest
  exact hlt.trans_le hle

/-- The length of a text in UTF-16. -/
def utf16Length (text : List Char) : Nat :=
  (text.map fun character => if character.toNat < 0x10000 then 1 else 2).sum

def isUnsafe (argument : List Char) : Bool :=
  argument.contains '\x00' || argument.contains '"'

/-- Reads the command line of the service. -/
def parseServiceCommandLine (commandLine : List Char) :
    Except ServiceCommandError ServiceCommandLine := do
  let utf16Len := utf16Length commandLine
  ensure (¬ (utf16Len = 0 ∨ maxCommandLineUtf16 < utf16Len))
    ⟨"Windows service command line is empty or exceeds the bounded length"⟩
  let arguments ← parseWindowsArguments commandLine
  match arguments with
  | [executable, daemon, service, flag, config] => do
    ensure (daemon = "daemon".toList ∧ service = "--service".toList ∧ flag = "--config".toList)
      ⟨"Windows service command line must be exactly daemon --service --config PATH"⟩
    ensure (¬ (executable.isEmpty ∨ maxExecutableChars < executable.length ∨ config.isEmpty ∨
        maxConfigChars < config.length ∨ arguments.any isUnsafe))
      ⟨"Windows service command line contains an empty, oversized, or unsafe argument"⟩
    let canonical := [' '].intercalate (arguments.map quoteWindows)
    ensure (canonical = commandLine)
      ⟨"Windows service command line is not in the canonical quoted form"⟩
    pure ⟨executable, config⟩
  | _ =>
    .error ⟨"Windows service command line must be exactly daemon --service --config PATH"⟩

/-! ### Quoted arguments are read back -/

theorem backslashes_succ (n : Nat) : backslashes (n + 1) = backslashes n ++ ['\\'] :=
  List.replicate_succ'

/-- What a quoted argument is followed by: the end of the text, or a blank. -/
def Ends (tail : List Char) : Prop :=
  tail = [] ∨ ∃ rest, tail = ' ' :: rest

section Quoted

variable {argument tail : List Char} {quoted : Bool}

theorem scan_backslashes (slashes n : Nat) (rest : List Char) :
    scanArgument argument slashes quoted (backslashes n ++ rest) =
      scanArgument argument (slashes + n) quoted rest := by
  induction n generalizing slashes with
  | zero => rfl
  | succ n ih =>
    have hcons : backslashes (n + 1) ++ rest = '\\' :: (backslashes n ++ rest) := rfl
    rw [hcons, scan_backslash, ih, Nat.add_right_comm, Nat.add_assoc]

theorem Ends.scan (h : Ends tail) (slashes : Nat) :
    scanArgument argument slashes false tail = ⟨argument ++ backslashes slashes, false, tail⟩ := by
  rcases h with rfl | ⟨rest, rfl⟩
  · rfl
  · exact scan_separator rfl

theorem Ends.head?_ne (h : Ends tail) : tail.head? ≠ some '"' := by
  rcases h with rfl | ⟨rest, rfl⟩ <;> simp

/-- Inside of quotes the value is read back. The induction carries the backslashes of the value
that are not written yet. -/
theorem scan_quoteRest (htail : Ends tail) (value : List Char) (slashes : Nat) :
    scanArgument argument 0 true (quoteRest slashes value ++ tail) =
      ⟨argument ++ backslashes slashes ++ value, false, tail⟩ := by
  induction value generalizing argument slashes with
  | nil =>
    have hhalf : slashes * 2 / 2 = slashes := by omega
    rw [quoteRest, List.append_assoc, scan_backslashes, Nat.zero_add, List.singleton_append,
      scan_closing_quote (by omega) htail.head?_ne, hhalf, htail.scan]
    simp [backslashes]
  | cons character value ih =>
    rw [quoteRest]
    by_cases hbackslash : character = '\\'
    · rw [if_pos hbackslash, ih, backslashes_succ, hbackslash]
      simp
    · by_cases hquote : character = '"'
      · -- one backslash more than twice as many: half of them and a quote are read
        have hhalf : (slashes * 2 + 1) / 2 = slashes := by omega
        rw [if_neg hbackslash, if_pos hquote, List.append_assoc, scan_backslashes, Nat.zero_add,
          hquote, List.cons_append, scan_escaped_quote (by omega), hhalf, ih]
        simp [backslashes]
      · rw [if_neg hbackslash, if_neg hquote, List.append_assoc, scan_backslashes, Nat.zero_add,
          List.cons_append, scan_character hbackslash hquote (.inl rfl), ih]
        simp [backslashes]

theorem isWhitespace_of_isSeparator {character : Char} (h : isSeparator character = true) :
    isWhitespace character = true := by
  simp only [isSeparator, Bool.or_eq_true, beq_iff_eq] at h
  rcases h with (((rfl | rfl) | rfl) | rfl) | rfl <;> decide

/-- A value without white space and quotes is read as it is. -/
theorem scan_plain (htail : Ends tail) {value : List Char}
    (hvalue : ∀ character ∈ value, isWhitespace character = false ∧ character ≠ '"')
    (slashes : Nat) :
    scanArgument argument slashes false (value ++ tail) =
      ⟨argument ++ backslashes slashes ++ value, false, tail⟩ := by
  induction value generalizing argument slashes with
  | nil => rw [List.nil_append, htail.scan, List.append_nil]
  | cons character value ih =>
    obtain ⟨⟨hwhite, hquote⟩, hrest⟩ := List.forall_mem_cons.mp hvalue
    by_cases hbackslash : character = '\\'
    · rw [hbackslash, List.cons_append, scan_backslash, ih hrest, backslashes_succ]
      simp
    · have hseparator : isSeparator character = false := by
        by_contra hnot
        rw [isWhitespace_of_isSeparator (by simpa using hnot)] at hwhite
        cases hwhite
      rw [List.cons_append, scan_character hbackslash hquote (.inr hseparator), ih hrest]
      simp [backslashes]

/-- One argument is read back. -/
theorem scan_quoteWindows (htail : Ends tail) (value : List Char) :
    scanArgument [] 0 false (quoteWindows value ++ tail) = ⟨value, false, tail⟩ := by
  rw [quoteWindows]
  split
  next =>
    rw [List.cons_append, scan_opening_quote rfl, scan_quoteRest htail]
    simp [backslashes]
  next hplain =>
    refine (scan_plain htail (fun character hcharacter => ?_) 0).trans (by simp [backslashes])
    simp only [Bool.or_eq_true, List.any_eq_true, not_or, not_exists, not_and,
      beq_iff_eq, Bool.not_eq_true] at hplain
    exact hplain.2 character hcharacter

/-- A quoted argument does not begin with a separator. -/
theorem exists_quoteWindows_eq_cons (value : List Char) :
    ∃ character rest, quoteWindows value = character :: rest ∧ isSeparator character = false := by
  rw [quoteWindows]
  split
  next => exact ⟨'"', quoteRest 0 value, rfl, rfl⟩
  next hplain =>
    cases value with
    | nil => exact absurd rfl hplain
    | cons character rest =>
      refine ⟨character, rest, rfl, ?_⟩
      by_contra hnot
      have hwhite := isWhitespace_of_isSeparator (by simpa using hnot)
      simp [hwhite] at hplain

end Quoted

theorem parse_of_dropWhile_eq_nil {characters : List Char}
    (h : characters.dropWhile isSeparator = []) : parseWindowsArguments characters = .ok [] := by
  rw [parseWindowsArguments]
  split
  next => rfl
  next hcons => cases h.symm.trans hcons

theorem parse_of_dropWhile_eq_cons {characters rest : List Char} {character : Char}
    (h : characters.dropWhile isSeparator = character :: rest) :
    parseWindowsArguments characters = (do
      let scanned := scanArgument [] 0 false (character :: rest)
      ensure (scanned.quoted = false)
        ⟨"Windows service command line contains an unterminated quote"⟩
      let arguments ← parseWindowsArguments scanned.rest
      pure (scanned.argument :: arguments)) := by
  rw [parseWindowsArguments]
  split
  next hnil => cases h.symm.trans hnil
  next hcons =>
    cases h.symm.trans hcons
    rfl

/-- The blank between two arguments is skipped. -/
theorem parse_blank (rest : List Char) :
    parseWindowsArguments (' ' :: rest) = parseWindowsArguments rest := by
  have hskip : (' ' :: rest).dropWhile isSeparator = rest.dropWhile isSeparator := rfl
  cases h : rest.dropWhile isSeparator with
  | nil => rw [parse_of_dropWhile_eq_nil h, parse_of_dropWhile_eq_nil (hskip.trans h)]
  | cons character tail =>
    rw [parse_of_dropWhile_eq_cons h, parse_of_dropWhile_eq_cons (hskip.trans h)]

/-- The first argument is read back, and then those that follow. -/
theorem parse_quoteWindows_append {tail : List Char} (htail : Ends tail) (value : List Char)
    {arguments : List (List Char)} (h : parseWindowsArguments tail = .ok arguments) :
    parseWindowsArguments (quoteWindows value ++ tail) = .ok (value :: arguments) := by
  obtain ⟨character, rest, hcons, hseparator⟩ := exists_quoteWindows_eq_cons value
  have hstart : (quoteWindows value ++ tail).dropWhile isSeparator =
      character :: (rest ++ tail) := by
    rw [hcons, List.cons_append, List.dropWhile_cons_of_neg (by simp [hseparator])]
  have hscan := scan_quoteWindows htail value
  rw [hcons, List.cons_append] at hscan
  rw [parse_of_dropWhile_eq_cons hstart, hscan]
  exact ensure_bind_eq_ok.mpr ⟨rfl, bind_eq_ok.mpr ⟨arguments, h, rfl⟩⟩

/-- **Round trip.** Arguments that are quoted and joined by blanks are read back. -/
theorem parse_quoted (values : List (List Char)) :
    parseWindowsArguments ([' '].intercalate (values.map quoteWindows)) = .ok values := by
  induction values with
  | nil => exact parse_of_dropWhile_eq_nil rfl
  | cons value values ih =>
    cases values with
    | nil =>
      have hlast := parse_quoteWindows_append (.inl rfl) value (parse_of_dropWhile_eq_nil rfl)
      rw [List.append_nil] at hlast
      simpa [List.intercalate] using hlast
    | cons next values =>
      have hblank := (parse_blank _).trans ih
      have hfirst := parse_quoteWindows_append (.inr ⟨_, rfl⟩) value hblank
      rw [List.map_cons, List.map_cons, List.intercalate_cons_cons, List.append_assoc]
      exact hfirst

/-- The backslash before the closing quote is written twice. -/
example : quoteWindows "a b\\".toList = "\"a b\\\\\"".toList := by decide

/-! ### The command line of the service -/

/-- The paths that a command line can hold. -/
structure ServiceCommandLine.Allowed (paths : ServiceCommandLine) : Prop where
  executable_ne_nil : paths.executable ≠ []
  config_ne_nil : paths.config ≠ []
  executable_safe : '"' ∉ paths.executable ∧ '\x00' ∉ paths.executable
  config_safe : '"' ∉ paths.config ∧ '\x00' ∉ paths.config
  executable_le : paths.executable.length ≤ maxExecutableChars
  config_le : paths.config.length ≤ maxConfigChars
  line_le : utf16Length (renderServiceCommandLine paths.executable paths.config) ≤
    maxCommandLineUtf16

/-- The arguments of the service. -/
def serviceArguments (executable config : List Char) : List (List Char) :=
  [executable, "daemon".toList, "--service".toList, "--config".toList, config]

theorem intercalate_serviceArguments (executable config : List Char) :
    [' '].intercalate ((serviceArguments executable config).map quoteWindows) =
      renderServiceCommandLine executable config := by
  have hdaemon : quoteWindows "daemon".toList = "daemon".toList := by decide
  have hservice : quoteWindows "--service".toList = "--service".toList := by decide
  have hflag : quoteWindows "--config".toList = "--config".toList := by decide
  have hmiddle : " daemon --service --config ".toList =
      [' '] ++ "daemon".toList ++ [' '] ++ "--service".toList ++ [' '] ++ "--config".toList ++
        [' '] := by decide
  rw [renderServiceCommandLine, hmiddle]
  simp only [serviceArguments, List.map_cons, List.map_nil, hdaemon, hservice, hflag,
    List.intercalate_cons_cons, List.intercalate_singleton, List.append_assoc]

theorem utf16Length_pos {text : List Char} (h : text ≠ []) : utf16Length text ≠ 0 := by
  cases text with
  | nil => exact absurd rfl h
  | cons character rest =>
    rw [utf16Length, List.map_cons, List.sum_cons]
    split <;> omega

theorem any_isUnsafe_serviceArguments (executable config : List Char) :
    (serviceArguments executable config).any isUnsafe =
      (isUnsafe executable || isUnsafe config) := by
  have hdaemon : isUnsafe "daemon".toList = false := by decide
  have hservice : isUnsafe "--service".toList = false := by decide
  have hflag : isUnsafe "--config".toList = false := by decide
  simp only [serviceArguments, List.any_cons, List.any_nil, hdaemon, hservice, hflag,
    Bool.false_or, Bool.or_false]

theorem isUnsafe_eq_false {argument : List Char} :
    isUnsafe argument = false ↔ '"' ∉ argument ∧ '\x00' ∉ argument := by
  simp [isUnsafe, and_comm]

theorem render_ne_nil (executable config : List Char) :
    renderServiceCommandLine executable config ≠ [] := by
  obtain ⟨character, rest, hcons, -⟩ := exists_quoteWindows_eq_cons executable
  rw [renderServiceCommandLine, hcons]
  nofun

/-- What is read of a line: five arguments, three of them fixed, that are written as the line. -/
theorem parseServiceCommandLine_eq_ok {line : List Char} {result : ServiceCommandLine} :
    parseServiceCommandLine line = .ok result ↔
      (utf16Length line ≠ 0 ∧ utf16Length line ≤ maxCommandLineUtf16) ∧
      parseWindowsArguments line =
        .ok (serviceArguments result.executable result.config) ∧
      ¬ (result.executable.isEmpty ∨ maxExecutableChars < result.executable.length ∨
        result.config.isEmpty ∨ maxConfigChars < result.config.length ∨
        (serviceArguments result.executable result.config).any isUnsafe) ∧
      renderServiceCommandLine result.executable result.config = line := by
  rw [parseServiceCommandLine, ensure_bind_eq_ok, not_or, Nat.not_lt]
  refine and_congr_right fun _ => ?_
  constructor
  · intro h
    obtain ⟨arguments, hparse, h⟩ := bind_eq_ok.mp h
    split at h
    next executable daemon service flag config =>
      obtain ⟨⟨rfl, rfl, rfl⟩, h⟩ := ensure_bind_eq_ok.mp h
      obtain ⟨hbounds, h⟩ := ensure_bind_eq_ok.mp h
      obtain ⟨hcanonical, h⟩ := ensure_bind_eq_ok.mp h
      cases h
      exact ⟨hparse, hbounds, (intercalate_serviceArguments executable config).symm.trans hcanonical⟩
    next => cases h
  · rintro ⟨hparse, hbounds, hcanonical⟩
    have hline := (intercalate_serviceArguments result.executable result.config).trans hcanonical
    refine bind_eq_ok.mpr ⟨_, hparse, ?_⟩
    exact ensure_bind_eq_ok.mpr ⟨⟨rfl, rfl, rfl⟩, ensure_bind_eq_ok.mpr ⟨hbounds,
      ensure_bind_eq_ok.mpr ⟨hline, rfl⟩⟩⟩

/-- **The command line.** A line is taken exactly if it is rendered from paths that are allowed,
and the paths are what is read. -/
theorem service_command_line_iff (line : List Char) (result : ServiceCommandLine) :
    parseServiceCommandLine line = .ok result ↔
      line = renderServiceCommandLine result.executable result.config ∧ result.Allowed := by
  rw [parseServiceCommandLine_eq_ok, any_isUnsafe_serviceArguments]
  constructor
  · rintro ⟨⟨-, hlength⟩, -, hbounds, rfl⟩
    simp only [not_or, Nat.not_lt, List.isEmpty_iff, Bool.or_eq_true, Bool.not_eq_true] at hbounds
    obtain ⟨hexecutable, hexecutableLe, hconfig, hconfigLe, hsafe, hconfigSafe⟩ := hbounds
    exact ⟨rfl, hexecutable, hconfig, isUnsafe_eq_false.mp hsafe, isUnsafe_eq_false.mp hconfigSafe,
      hexecutableLe, hconfigLe, hlength⟩
  · rintro ⟨rfl, hallowed⟩
    have hparse := parse_quoted (serviceArguments result.executable result.config)
    rw [intercalate_serviceArguments] at hparse
    refine ⟨⟨utf16Length_pos (render_ne_nil _ _), hallowed.line_le⟩, hparse, ?_, rfl⟩
    simp only [not_or, Nat.not_lt, List.isEmpty_iff, Bool.or_eq_true, Bool.not_eq_true]
    exact ⟨hallowed.executable_ne_nil, hallowed.executable_le, hallowed.config_ne_nil,
      hallowed.config_le, isUnsafe_eq_false.mpr hallowed.executable_safe,
      isUnsafe_eq_false.mpr hallowed.config_safe⟩

/-- **Writing and reading.** Arguments of any characters are read back from their quoted forms,
and the service's command lines are exactly those that are rendered. -/
theorem command_line_round_trip :
    (∀ values, parseWindowsArguments ([' '].intercalate (values.map quoteWindows)) = .ok values) ∧
      ∀ line result, parseServiceCommandLine line = .ok result ↔
        line = renderServiceCommandLine result.executable result.config ∧ result.Allowed :=
  ⟨parse_quoted, service_command_line_iff⟩

end AscensionWatchdog.Windows
