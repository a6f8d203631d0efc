import AscensionWatchdog.Foundation.JsonGrammar
import AscensionWatchdog.Supervisor.Protocol

/-!
# The numbers of a worker frame

Before a frame of the worker protocol is parsed, a scanner goes over its bytes and refuses every
number that is not a plain decimal below `2 ^ 53`. The scanner knows strings and digits only. On a
JSON document it finds exactly the number tokens of the grammar (`scanner_iff`): a string is
skipped as a whole, and a run of number bytes ends where the token ends, since what follows a
value is a blank, a comma or a bracket.
-/

namespace AscensionWatchdog

open Foundation Foundation.JsonGrammar

/-! ### The scanner -/

/-- The errors of the scanner, all `InvalidNumber`. -/
inductive LexemeError where
  | invalidNumber (message : String)
  deriving DecidableEq, Repr

/-- The bytes that the scanner takes into a number. -/
def isNumberByte (byte : UInt8) : Bool :=
  isDigit byte || byte ∈ [0x65, 0x45, 0x2b, 0x2d, 0x2e]

/-- What follows the string; `escaped` says that the byte before was a backslash. -/
def skipJsonString : Bool → List UInt8 → List UInt8
  | _, [] => []
  | true, _ :: rest => skipJsonString false rest
  | false, byte :: rest =>
    if byte = 0x5c then skipJsonString true rest
    else if byte = 0x22 then rest
    else skipJsonString false rest

theorem length_skipJsonString_le (escaped : Bool) (bytes : List UInt8) :
    (skipJsonString escaped bytes).length ≤ bytes.length := by
  induction bytes generalizing escaped with
  | nil => rw [skipJsonString]
  | cons byte rest ih =>
    have htrue := ih true
    have hfalse := ih false
    rw [List.length_cons]
    cases escaped with
    | true =>
      rw [skipJsonString]
      omega
    | false =>
      rw [skipJsonString]
      split
      · omega
      · split <;> omega

def decimalValue (lexeme : List UInt8) : Nat :=
  lexeme.foldl (fun value byte => 10 * value + (byte.toNat - 0x30)) 0

/-- `str::parse::<u64>` of decimal digits. -/
def parseLexeme (lexeme : List UInt8) : Option Nat :=
  if decimalValue lexeme < 2 ^ 64 then some (decimalValue lexeme) else none

def isDecimal (lexeme : List UInt8) : Bool :=
  lexeme = [0x30] || ((lexeme.head?.any fun byte => 0x31 ≤ byte && byte ≤ 0x39) &&
    lexeme.tail.all isDigit)

def checkLexeme (lexeme : List UInt8) : Except LexemeError Unit := do
  ensure (isDecimal lexeme)
    (.invalidNumber "JSON numbers must be canonical unsigned decimal integers")
  ensure (¬ (parseLexeme lexeme).all fun value => maxWorkerWireInteger < value)
    (.invalidNumber "JSON integer exceeds the u53 wire bound")

/-- The loop from an index on; the bytes are those that are left. The first digit of a number is
part of its lexeme. -/
def validateCanonicalNumberLexemes : List UInt8 → Except LexemeError Unit
  | [] => .ok ()
  | byte :: rest =>
    if byte = 0x22 then
      validateCanonicalNumberLexemes (skipJsonString false rest)
    else if byte = 0x2d then
      .error (.invalidNumber "JSON numbers must use canonical unsigned decimal syntax")
    else if isDigit byte then do
      checkLexeme (byte :: rest.takeWhile isNumberByte)
      validateCanonicalNumberLexemes (rest.dropWhile isNumberByte)
    else
      validateCanonicalNumberLexemes rest
termination_by bytes => bytes.length
decreasing_by
  · have hle := length_skipJsonString_le false rest
    rw [List.length_cons]
    omega
  · have hle := (List.dropWhile_suffix isNumberByte (l := rest)).length_le
    rw [List.length_cons]
    omega
  · rw [List.length_cons]
    omega

/-! ### What the scanner skips -/

/-- A byte outside of strings and numbers is skipped. -/
theorem scan_skips {text : List UInt8} (rest : List UInt8)
    (h : ∀ byte ∈ text, byte ≠ 0x22 ∧ byte ≠ 0x2d ∧ isDigit byte = false) :
    validateCanonicalNumberLexemes (text ++ rest) = validateCanonicalNumberLexemes rest := by
  induction text with
  | nil => rfl
  | cons byte text ih =>
    obtain ⟨⟨hquote, hdash, hdigit⟩, htext⟩ := List.forall_mem_cons.mp h
    rw [List.cons_append, validateCanonicalNumberLexemes, if_neg hquote, if_neg hdash, hdigit,
      if_neg Bool.false_ne_true, ih htext]

theorem scan_blank {blank : List UInt8} (h : Blank blank) (rest : List UInt8) :
    validateCanonicalNumberLexemes (blank ++ rest) = validateCanonicalNumberLexemes rest := by
  have hall : ∀ byte ∈ [0x20, 0x09, 0x0a, 0x0d],
      byte ≠ 0x22 ∧ byte ≠ 0x2d ∧ isDigit byte = false := forall_mem_of_all (by decide)
  exact scan_skips rest fun byte hbyte => hall byte (h byte hbyte)

theorem skipJsonString_characters {text : List UInt8} (h : Characters text) (rest : List UInt8) :
    skipJsonString false (text ++ 0x22 :: rest) = rest := by
  have hplain : ∀ {byte : UInt8} (rest : List UInt8), byte ≠ 0x5c → byte ≠ 0x22 →
      skipJsonString false (byte :: rest) = skipJsonString false rest := by
    intro byte rest hslash hquote
    rw [skipJsonString, if_neg hslash, if_neg hquote]
  have hescape : ∀ (byte : UInt8) (rest : List UInt8),
      skipJsonString false (0x5c :: byte :: rest) = skipJsonString false rest := by
    intro byte rest
    rw [skipJsonString, if_pos rfl, skipJsonString]
  induction h with
  | nil => rfl
  | plain _ hquote hslash _ ih => rw [List.cons_append, hplain _ hslash hquote, ih]
  | escape _ _ ih => rw [List.cons_append, List.cons_append, hescape, ih]
  | unicode hhex _ ih =>
    -- a hexadecimal digit is neither a quote nor a backslash
    have hdigit : ∀ {byte : UInt8}, isHexDigit byte = true → byte ≠ 0x5c ∧ byte ≠ 0x22 := by
      rintro byte hbyte
      constructor
      · rintro rfl
        revert hbyte
        decide
      · rintro rfl
        revert hbyte
        decide
    simp only [List.all_cons, List.all_nil, Bool.and_true, Bool.and_eq_true] at hhex
    obtain ⟨ha, hb, hc, hd⟩ := hhex
    simp only [List.cons_append]
    rw [hescape, hplain _ (hdigit ha).1 (hdigit ha).2, hplain _ (hdigit hb).1 (hdigit hb).2,
      hplain _ (hdigit hc).1 (hdigit hc).2, hplain _ (hdigit hd).1 (hdigit hd).2, ih]

theorem scan_quoted {text : List UInt8} (h : Characters text) (rest : List UInt8) :
    validateCanonicalNumberLexemes (quoted text ++ rest) = validateCanonicalNumberLexemes rest := by
  have hrest : quoted text ++ rest = 0x22 :: (text ++ 0x22 :: rest) := by
    simp only [quoted, List.cons_append, List.append_assoc, List.nil_append]
  rw [hrest, validateCanonicalNumberLexemes, if_pos rfl, skipJsonString_characters h]

/-! ### Numbers -/

/-- A canonical unsigned decimal within the bound: digits only, hence without a sign, a fraction
and an exponent, and without a leading zero. -/
structure Canonical (lexeme : List UInt8) : Prop where
  ne_nil : lexeme ≠ []
  digits : lexeme.all isDigit = true
  leading : lexeme.head? = some 0x30 → lexeme = [0x30]
  bounded : decimalValue lexeme ≤ 2 ^ 53 - 1

/-- The text that follows does not go on with a number. -/
def Ends (rest : List UInt8) : Prop :=
  ∀ byte ∈ rest.head?, isNumberByte byte = false

theorem checkLexeme_iff {first : UInt8} {more : List UInt8} (hfirst : isDigit first = true) :
    checkLexeme (first :: more) = .ok () ↔ Canonical (first :: more) := by
  have hbound : (¬ (parseLexeme (first :: more)).all fun value => maxWorkerWireInteger < value) ↔
      decimalValue (first :: more) ≤ 2 ^ 53 - 1 := by
    rw [parseLexeme]
    split
    · rw [Option.all_some, decide_eq_true_eq, not_lt]
      rfl
    · simp
      omega
  have hdecimal : isDecimal (first :: more) = true ↔
      (first :: more).all isDigit = true ∧
        ((first :: more).head? = some 0x30 → first :: more = [0x30]) := by
    by_cases hzero : first = 0x30
    · subst hzero
      simp [isDecimal, hfirst]
      rintro rfl
      simp
    · have hrange : (0x31 ≤ first && first ≤ 0x39) = true := by
        simp only [isDigit, Bool.and_eq_true, decide_eq_true_eq] at hfirst ⊢
        refine ⟨?_, hfirst.2⟩
        have hne : first.toNat ≠ 0x30 := fun h => hzero (UInt8.toNat.inj h)
        have hle : 0x30 ≤ first.toNat := hfirst.1
        exact Nat.lt_of_le_of_ne hle (Ne.symm hne)
      simp [isDecimal, hzero, hrange, hfirst]
  rw [checkLexeme, ensure_bind_eq_ok, ensure_eq_ok, hdecimal, hbound]
  exact ⟨fun h => ⟨List.cons_ne_nil _ _, h.1.1, h.1.2, h.2⟩,
    fun h => ⟨⟨h.digits, h.leading⟩, h.bounded⟩⟩

/-- A number that begins with a digit is scanned up to its end. -/
theorem scan_digits {first : UInt8} {more : List UInt8} (hfirst : isDigit first = true)
    (hmore : more.all isNumberByte = true) (rest : List UInt8) (hrest : Ends rest) :
    validateCanonicalNumberLexemes (first :: more ++ rest) =
      checkLexeme (first :: more) >>= fun _ => validateCanonicalNumberLexemes rest := by
  have hquote : first ≠ 0x22 := by
    rintro rfl
    cases hfirst
  have hdash : first ≠ 0x2d := by
    rintro rfl
    cases hfirst
  have hall : ∀ byte ∈ more, isNumberByte byte = true := List.all_eq_true.mp hmore
  have hnone : rest.takeWhile isNumberByte = [] ∧ rest.dropWhile isNumberByte = rest := by
    cases rest with
    | nil => exact ⟨rfl, rfl⟩
    | cons byte rest =>
      have hbyte := hrest byte rfl
      exact ⟨List.takeWhile_cons_of_neg (by simp [hbyte]),
        List.dropWhile_cons_of_neg (by simp [hbyte])⟩
  rw [List.cons_append, validateCanonicalNumberLexemes, if_neg hquote, if_neg hdash, if_pos hfirst,
    List.takeWhile_append_of_pos hall, List.dropWhile_append_of_pos hall, hnone.1, hnone.2,
    List.append_nil]

/-- A number of the grammar begins with its sign or with a digit, and has number bytes only. -/
theorem number_cases {sign whole fraction exponent : List UInt8}
    (h : Number sign whole fraction exponent) :
    ∃ first more, sign ++ whole ++ fraction ++ exponent = first :: more ∧
      (first = 0x2d ∨ isDigit first = true ∧ more.all isNumberByte = true) := by
  have hdigits : ∀ {l : List UInt8}, l.all isDigit = true → l.all isNumberByte = true := by
    intro l hl
    exact List.all_eq_true.mpr fun byte hbyte => by
      simp [isNumberByte, List.all_eq_true.mp hl byte hbyte]
  have hfraction : fraction.all isNumberByte = true := by
    obtain rfl | ⟨digits, rfl, -, hall⟩ := h.fraction
    · rfl
    · rw [List.all_cons, hdigits hall]
      rfl
  have hexponent : exponent.all isNumberByte = true := by
    obtain rfl | ⟨mark, sign, digits, rfl, hmark, hsign, -, hall⟩ := h.exponent
    · rfl
    · have hmarks : ∀ byte ∈ Binary.utf8 "eE", isNumberByte byte = true :=
        forall_mem_of_all (by decide)
      rw [List.cons_append, List.all_cons, List.all_append, hmarks mark hmark, hdigits hall]
      obtain rfl | rfl | rfl := hsign <;> rfl
  obtain rfl | rfl := h.sign
  · obtain rfl | ⟨first, more, rfl, ⟨hlow, hhigh⟩, hall⟩ := h.whole
    · exact ⟨0x30, fraction ++ exponent, by simp, .inr ⟨rfl, by simp [hfraction, hexponent]⟩⟩
    · have hfirst : isDigit first = true := by
        have hle : (0x30 : UInt8) ≤ 0x31 := by decide
        simp [isDigit, UInt8.le_trans hle hlow, hhigh]
      exact ⟨first, more ++ fraction ++ exponent, by simp, .inr ⟨hfirst, by
        simp [hdigits hall, hfraction, hexponent]⟩⟩
  · exact ⟨0x2d, whole ++ fraction ++ exponent, by simp, .inl rfl⟩

theorem scan_dash (rest : List UInt8) : validateCanonicalNumberLexemes (0x2d :: rest) =
    .error (.invalidNumber "JSON numbers must use canonical unsigned decimal syntax") := by
  rw [validateCanonicalNumberLexemes, if_neg (by decide), if_pos rfl]

/-- The scanner on one number token, and on what follows it. -/
theorem scan_number {sign whole fraction exponent : List UInt8}
    (h : Number sign whole fraction exponent) :
    (validateCanonicalNumberLexemes (sign ++ whole ++ fraction ++ exponent) = .ok () ↔
        Canonical (sign ++ whole ++ fraction ++ exponent)) ∧
      ∀ rest, Ends rest →
        validateCanonicalNumberLexemes (sign ++ whole ++ fraction ++ exponent ++ rest) =
          validateCanonicalNumberLexemes (sign ++ whole ++ fraction ++ exponent) >>= fun _ =>
            validateCanonicalNumberLexemes rest := by
  obtain ⟨first, more, heq, hfirst⟩ := number_cases h
  rw [heq]
  obtain rfl | ⟨hdigit, hmore⟩ := hfirst
  · refine ⟨?_, fun rest _ => ?_⟩
    · rw [scan_dash]
      exact ⟨nofun, fun hcanonical => nomatch List.all_eq_true.mp hcanonical.digits _ (.head _)⟩
    · rw [List.cons_append, scan_dash, scan_dash]
      rfl
  · have hscan := scan_digits hdigit hmore
    have hself : validateCanonicalNumberLexemes (first :: more) = checkLexeme (first :: more) := by
      have hnil := hscan [] nofun
      rw [List.append_nil] at hnil
      rw [hnil, validateCanonicalNumberLexemes]
      cases checkLexeme (first :: more) <;> rfl
    refine ⟨by rw [hself, checkLexeme_iff hdigit], fun rest hrest => ?_⟩
    rw [hself, hscan rest hrest]

/-! ### Documents -/

theorem forEach_append {ε α : Type} {check : α → Except ε Unit} (as bs : List α) :
    forEach check (as ++ bs) = forEach check as >>= fun _ => forEach check bs := by
  induction as with
  | nil => rfl
  | cons a as ih => simp only [List.cons_append, forEach, ih, bind_assoc]

theorem Ends.blank {blank rest : List UInt8} (hblank : Blank blank) (hrest : Ends rest) :
    Ends (blank ++ rest) := by
  cases blank with
  | nil => exact hrest
  | cons byte blank =>
    have hall : ∀ byte ∈ [0x20, 0x09, 0x0a, 0x0d], isNumberByte byte = false :=
      forall_mem_of_all (by decide)
    rintro _ ⟨⟩
    exact hall byte (hblank byte (.head _))

/-- **The scanner reads the number tokens of a text, one after another, and nothing else.** -/
theorem scan_derives {σ : Symbol} {bytes : List UInt8} {numbers : List (List UInt8)}
    (h : Derives σ bytes numbers) (rest : List UInt8) (hrest : Ends rest) :
    validateCanonicalNumberLexemes (bytes ++ rest) =
      forEach validateCanonicalNumberLexemes numbers >>= fun _ =>
        validateCanonicalNumberLexemes rest := by
  have hbyte : ∀ {byte : UInt8} (rest : List UInt8), byte ∈ [0x5b, 0x5d, 0x7b, 0x7d, 0x3a, 0x2c] →
      validateCanonicalNumberLexemes (byte :: rest) = validateCanonicalNumberLexemes rest ∧
        Ends (byte :: rest) := by
    intro byte rest hmem
    have hall : ∀ byte ∈ [0x5b, 0x5d, 0x7b, 0x7d, 0x3a, 0x2c], (byte ≠ 0x22 ∧ byte ≠ 0x2d ∧
        isDigit byte = false) ∧ isNumberByte byte = false := forall_mem_of_all (by decide)
    refine ⟨@scan_skips [byte] rest (by simpa using (hall byte hmem).1), ?_⟩
    rintro _ ⟨⟩
    exact (hall byte hmem).2
  induction h generalizing rest with
  | literal htext =>
    simp only [List.mem_cons, List.not_mem_nil, or_false] at htext
    rcases htext with rfl | rfl | rfl <;> exact scan_skips rest (forall_mem_of_all (by decide))
  | string htext => exact scan_quoted htext rest
  | number hnumber =>
    rw [(scan_number hnumber).2 rest hrest]
    simp only [forEach, bind_assoc]
    rfl
  | emptyArray hblank | emptyObject hblank =>
    rw [List.cons_append, List.cons_append, (hbyte _ (by decide)).1, List.append_assoc,
      scan_blank hblank, List.singleton_append, (hbyte _ (by decide)).1]
    rfl
  | array _ ih | object _ ih =>
    rw [List.cons_append, List.cons_append, (hbyte _ (by decide)).1, List.append_assoc,
      List.singleton_append, ih _ (hbyte _ (by decide)).2, (hbyte _ (by decide)).1]
  | element hbefore _ hafter ih =>
    rw [List.append_assoc, List.append_assoc, scan_blank hbefore, ih _ (hrest.blank hafter),
      scan_blank hafter]
  | member hbefore hkey hafter _ ih =>
    simp only [List.append_assoc, List.cons_append]
    rw [scan_blank hbefore, scan_quoted hkey, scan_blank hafter, (hbyte _ (by decide)).1,
      ih rest hrest]
  | one _ ih => exact ih rest hrest
  | more _ _ ih ih' =>
    rw [List.append_assoc, List.cons_append, ih _ (hbyte _ (by decide)).2,
      (hbyte _ (by decide)).1, ih' rest hrest, forEach_append, bind_assoc]

/-- The tokens of a derivation are numbers. -/
theorem number_of_mem {σ : Symbol} {bytes lexeme : List UInt8} {numbers : List (List UInt8)}
    (h : Derives σ bytes numbers) (hlexeme : lexeme ∈ numbers) :
    ∃ sign whole fraction exponent, Number sign whole fraction exponent ∧
      lexeme = sign ++ whole ++ fraction ++ exponent := by
  induction h with
  | literal | string | emptyArray | emptyObject => cases hlexeme
  | number hnumber => exact ⟨_, _, _, _, hnumber, List.mem_singleton.mp hlexeme⟩
  | array _ ih | object _ ih | element _ _ _ ih | member _ _ _ _ ih | one _ ih => exact ih hlexeme
  | more _ _ ih ih' => exact (List.mem_append.mp hlexeme).elim ih ih'

/-- **A document is accepted exactly when its number tokens are canonical**, and what is not a
number token, such as the text of a string, does not change the answer. -/
theorem scanner_iff {bytes : List UInt8} {numbers : List (List UInt8)}
    (h : Document bytes numbers) :
    (validateCanonicalNumberLexemes bytes = .ok () ↔ ∀ lexeme ∈ numbers, Canonical lexeme) ∧
      ∀ others, Document others numbers →
        validateCanonicalNumberLexemes others = validateCanonicalNumberLexemes bytes := by
  have hscan : ∀ {bytes : List UInt8}, Document bytes numbers →
      validateCanonicalNumberLexemes bytes =
        forEach validateCanonicalNumberLexemes numbers >>= fun _ => .ok () := by
    intro bytes h
    have hnil := scan_derives h [] nofun
    rwa [List.append_nil, validateCanonicalNumberLexemes] at hnil
  refine ⟨?_, fun others hothers => (hscan hothers).trans (hscan h).symm⟩
  rw [hscan h, check_bind_eq_ok, forEach_eq_ok, and_iff_left rfl]
  refine forall₂_congr fun lexeme hlexeme => ?_
  obtain ⟨_, _, _, _, hnumber, rfl⟩ := number_of_mem h hlexeme
  exact (scan_number hnumber).1

/-- The document `["-",7]`. -/
theorem scanner_iff_dash_seven :
    validateCanonicalNumberLexemes [0x5b, 0x22, 0x2d, 0x22, 0x2c, 0x37, 0x5d] = .ok () ∧
      ∀ lexeme ∈ [[0x37]], Canonical lexeme := by
  have hblank : Blank [] := nofun
  have hdash : Derives .value (quoted [0x2d]) [] :=
    .string (.plain (by decide) (by decide) (by decide) .nil)
  have hseven : Derives .value ([] ++ [0x37] ++ [] ++ []) [[] ++ [0x37] ++ [] ++ []] :=
    .number ⟨.inl rfl, .inr ⟨0x37, [], rfl, by decide, rfl⟩, .inl rfl, .inl rfl⟩
  have hitems : Derives (.several .element) _ _ :=
    .more (.element hblank hdash hblank) (.one (.element hblank hseven hblank))
  have hdocument : Document [0x5b, 0x22, 0x2d, 0x22, 0x2c, 0x37, 0x5d] [[0x37]] :=
    .element hblank (.array hitems) hblank
  have hcanonical : ∀ lexeme ∈ [[0x37]], Canonical lexeme := by
    intro lexeme hlexeme
    cases List.mem_singleton.mp hlexeme
    exact ⟨by decide, by decide, by decide, by decide⟩
  exact ⟨(scanner_iff hdocument).1.mpr hcanonical, hcanonical⟩

end AscensionWatchdog
