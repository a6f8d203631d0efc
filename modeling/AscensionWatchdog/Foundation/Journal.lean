import Mathlib.Data.List.Infix
import AscensionWatchdog.Foundation.Checked

/-!
# Journals of one record a line

An append-only journal holds one record a line: an **entry** is the encoding of a record and the
newline that ends it. A reader splits the file at the newlines, skips the empty lines and folds
the records of the others into a state, checking each of them.

What a reader makes of a file to which something was appended depends on one thing: whether the
file was **settled**, that is empty or ended by a newline. Then the reading goes on where it had
stopped (`Settled.readFile_append`). Otherwise the appended bytes continue the last line, no
encoding survives that, and the file is **dead**: no reading of it succeeds any more, whatever is
appended (`dead_of_unsettled`). `readFile_entries_iff` and `readFile_torn` say this for whole
entries and for the part of an entry that an interrupted write leaves.

Of the encoding only this is used: it has no newline, a decoder gives the record back, and a
proper part of it at the front, or anything of it after a text that decodes, does not decode.
Encodings that are complete objects of a bracketed notation are of this kind.
-/

namespace Foundation.Journal

variable {α ε ρ σ : Type} {newline : α}

/-! ### Encodings and readers -/

/-- How records are written on lines and read back. -/
structure LineCodec (newline : α) (ε ρ : Type) where
  /-- The first byte of every encoding. -/
  opening : α
  encode : ρ → List α
  decode : List α → Except ε ρ
  decode_encode : ∀ r, decode (encode r) = .ok r
  newline_not_mem : ∀ r, newline ∉ encode r
  encode_opening : ∀ r, ∃ rest, encode r = opening :: rest
  /-- A part of an encoding at the front of it is not one. -/
  decode_truncated : ∀ r l r', l <+: encode r → l ≠ encode r → decode l ≠ .ok r'
  /-- Nothing that begins as an encoding may follow what decodes. -/
  decode_continued : ∀ l r rest r', decode l = .ok r → decode (l ++ opening :: rest) ≠ .ok r'

open Classical in
/-- The decoder of an encoding no two texts of which begin alike: it accepts the texts that are
encodings and gives back the record. -/
noncomputable def LineCodec.ofEncoding (opening : α) (encode : ρ → List α) (refuse : ε)
    (newline_not_mem : ∀ r, newline ∉ encode r)
    (encode_opening : ∀ r, ∃ rest, encode r = opening :: rest)
    (eq_of_isPrefix : ∀ r r', encode r <+: encode r' → r = r') : LineCodec newline ε ρ where
  opening := opening
  encode := encode
  decode l := if h : ∃ r, encode r = l then .ok h.choose else .error refuse
  decode_encode r := by
    have h : ∃ r', encode r' = encode r := ⟨r, rfl⟩
    have heq : h.choose = r := eq_of_isPrefix _ _ (by rw [h.choose_spec])
    rw [dif_pos h, heq]
  newline_not_mem := newline_not_mem
  encode_opening := encode_opening
  decode_truncated r l r' hl hne h := by
    split at h
    next hexists =>
      obtain ⟨r'', rfl⟩ := hexists
      exact hne (congrArg encode (eq_of_isPrefix r'' r hl))
    next => cases h
  decode_continued l r rest r' hl h := by
    split at h
    next hexists =>
      split at hl
      next hexists' =>
        obtain ⟨r₁, rfl⟩ := hexists'
        obtain ⟨r₂, hr₂⟩ := hexists
        have heq : r₁ = r₂ := eq_of_isPrefix r₁ r₂ (hr₂ ▸ List.prefix_append _ _)
        subst heq
        exact List.cons_ne_nil opening rest (List.append_right_eq_self.mp hr₂.symm)
      next => cases hl
    next => cases h

/-- How a reader takes up a record: a check made before the line is decoded, and the state that
the record leads to. -/
structure Reader (σ ε ρ : Type) where
  check : σ → Except ε Unit
  apply : σ → ρ → Except ε σ

/-- One record. -/
def Reader.advance (reader : Reader σ ε ρ) (s : σ) (r : ρ) : Except ε σ := do
  reader.check s
  reader.apply s r

/-- Records one after another. -/
def Reader.replay (reader : Reader σ ε ρ) (s : σ) (rs : List ρ) : Except ε σ :=
  rs.foldlM reader.advance s

/-- One line. -/
def readLine (codec : LineCodec newline ε ρ) (reader : Reader σ ε ρ) (s : σ) (line : List α) :
    Except ε σ := do
  reader.check s
  let r ← codec.decode line
  reader.apply s r

/-- What an append writes. -/
def entry (codec : LineCodec newline ε ρ) (r : ρ) : List α :=
  codec.encode r ++ [newline]

def entries (codec : LineCodec newline ε ρ) (rs : List ρ) : List α :=
  rs.flatMap (entry codec)

/-- Empty, or ended by a newline. -/
def Settled (newline : α) (file : List α) : Prop :=
  file = [] ∨ ∃ a, file = a ++ [newline]

section

variable {codec : LineCodec newline ε ρ} {reader : Reader σ ε ρ}
variable {s t : σ} {r : ρ} {line : List α}

theorem replay_cons {rs : List ρ} : reader.replay s (r :: rs) = .ok t ↔
    ∃ u, reader.advance s r = .ok u ∧ reader.replay u rs = .ok t := by
  rw [Reader.replay, List.foldlM_cons, bind_eq_ok]
  rfl

theorem readLine_encode : readLine codec reader s (codec.encode r) = reader.advance s r := by
  rw [readLine, codec.decode_encode]
  rfl

/-- A line that was taken up decodes, and its record was taken up. -/
theorem exists_decode_of_readLine (h : readLine codec reader s line = .ok t) :
    ∃ r, codec.decode line = .ok r ∧ reader.advance s r = .ok t := by
  obtain ⟨hcheck, h⟩ := check_bind_eq_ok.mp h
  obtain ⟨r, hr, h⟩ := bind_eq_ok.mp h
  exact ⟨r, hr, check_bind_eq_ok.mpr ⟨hcheck, h⟩⟩

theorem encode_ne_nil (codec : LineCodec newline ε ρ) (r : ρ) : codec.encode r ≠ [] := by
  obtain ⟨rest, hrest⟩ := codec.encode_opening r
  simp [hrest]

theorem opening_ne_newline (codec : LineCodec newline ε ρ) (r : ρ) :
    codec.opening ≠ newline := by
  intro h
  obtain ⟨rest, hrest⟩ := codec.encode_opening r
  have hmem := codec.newline_not_mem r
  rw [hrest, h] at hmem
  exact hmem List.mem_cons_self

theorem settled_append_newline (a : List α) : Settled newline (a ++ [newline]) :=
  .inr ⟨a, rfl⟩

theorem settled_entry (codec : LineCodec newline ε ρ) (r : ρ) (file : List α) :
    Settled newline (file ++ entry codec r) := by
  rw [entry, ← List.append_assoc]
  exact settled_append_newline _

end

/-! ### Lines -/

variable [DecidableEq α]

/-- The lines of a file that are not empty. -/
def lines (newline : α) (file : List α) : List (List α) :=
  (file.splitOn newline).filter (!·.isEmpty)

theorem lines_nil : lines newline ([] : List α) = [] := by
  simp [lines, List.splitOn]

theorem lines_append_newline (a b : List α) :
    lines newline (a ++ newline :: b) = lines newline a ++ lines newline b := by
  have hsplit : (a ++ newline :: b).splitOn newline = a.splitOn newline ++ b.splitOn newline :=
    List.splitOnP_append_cons a b (by simp)
  rw [lines, hsplit, List.filter_append, lines, lines]

theorem lines_of_not_mem {l : List α} (h : newline ∉ l) (hne : l ≠ []) :
    lines newline l = [l] := by
  have hsplit : l.splitOn newline = [l] := by
    refine List.splitOnP_eq_singleton fun b hb => ?_
    simp only [beq_eq_false_iff_ne, ne_eq]
    rintro rfl
    exact h hb
  rw [lines, hsplit]
  simpa using hne

theorem Settled.lines_append {a : List α} (h : Settled newline a) (b : List α) :
    lines newline (a ++ b) = lines newline a ++ lines newline b := by
  obtain rfl | ⟨a, rfl⟩ := h
  · rw [lines_nil, List.nil_append, List.nil_append]
  · rw [List.append_assoc, List.singleton_append, lines_append_newline, lines_append_newline,
      lines_nil, List.append_nil]

/-- Every file is a settled one and a last line that is not ended. -/
theorem exists_lastLine (newline : α) (file : List α) :
    ∃ front last, file = front ++ last ∧ Settled newline front ∧ newline ∉ last := by
  induction file using List.reverseRecOn with
  | nil => exact ⟨[], [], rfl, .inl rfl, List.not_mem_nil⟩
  | append_singleton file b ih =>
    by_cases hb : b = newline
    · exact ⟨file ++ [b], [], (List.append_nil _).symm, hb ▸ settled_append_newline file,
        List.not_mem_nil⟩
    · obtain ⟨front, last, rfl, hfront, hlast⟩ := ih
      refine ⟨front, last ++ [b], List.append_assoc .., hfront, ?_⟩
      simpa [hlast] using Ne.symm hb

/-- A text splits at its first newline, or has none. -/
theorem exists_firstLine (newline : α) (text : List α) :
    ∃ line, newline ∉ line ∧ (text = line ∨ ∃ rest, text = line ++ newline :: rest) := by
  by_cases h : newline ∈ text
  · obtain ⟨line, rest, rfl, hline⟩ := List.eq_append_cons_of_mem h
    exact ⟨line, hline, .inr ⟨rest, rfl⟩⟩
  · exact ⟨text, h, .inl rfl⟩

/-! ### Files -/

/-- The records of a file, line after line. -/
def readFile (codec : LineCodec newline ε ρ) (reader : Reader σ ε ρ) (s : σ) (file : List α) :
    Except ε σ :=
  (lines newline file).foldlM (readLine codec reader) s

/-- No reading succeeds, whatever is appended. -/
def Dead (codec : LineCodec newline ε ρ) (reader : Reader σ ε ρ) (s : σ) (file : List α) : Prop :=
  ∀ rest t, readFile codec reader s (file ++ rest) ≠ .ok t

variable {codec : LineCodec newline ε ρ} {reader : Reader σ ε ρ}
variable {s t u : σ} {r : ρ} {rs : List ρ} {file torn line : List α}

/-- The reading of a settled file goes on with what is appended. -/
theorem Settled.readFile_append (h : Settled newline file) (more : List α) :
    readFile codec reader s (file ++ more) =
      readFile codec reader s file >>= (readFile codec reader · more) := by
  rw [readFile, h.lines_append, List.foldlM_append]
  rfl

theorem readFile_line (h : newline ∉ line) (hne : line ≠ []) :
    readFile codec reader s line = readLine codec reader s line := by
  rw [readFile, lines_of_not_mem h hne, List.foldlM_cons]
  cases readLine codec reader s line <;> rfl

/-- A reading begins with the first line. -/
theorem readFile_line_newline (h : newline ∉ line) (hne : line ≠ []) (rest : List α) :
    readFile codec reader s (line ++ newline :: rest) =
      readLine codec reader s line >>= (readFile codec reader · rest) := by
  rw [readFile, lines_append_newline, List.foldlM_append, lines_of_not_mem h hne,
    List.foldlM_cons]
  cases readLine codec reader s line <;> rfl

theorem readFile_nil : readFile codec reader s [] = .ok s := by
  rw [readFile, lines_nil]
  rfl

theorem readFile_encode :
    readFile codec reader s (codec.encode r) = reader.advance s r := by
  rw [readFile_line (codec.newline_not_mem r) (encode_ne_nil codec r), readLine_encode]

theorem readFile_entry : readFile codec reader s (entry codec r) = reader.advance s r := by
  rw [entry, readFile_line_newline (codec.newline_not_mem r) (encode_ne_nil codec r),
    readLine_encode]
  cases reader.advance s r with
  | ok t =>
    show readFile codec reader t [] = .ok t
    exact readFile_nil
  | error e => rfl

/-- What every record keeps holds of a file that was read. -/
theorem readFile_induction {P : σ → Prop}
    (hstep : ∀ s r t, P s → reader.advance s r = .ok t → P t) (hs : P s)
    (h : readFile codec reader s file = .ok t) : P t := by
  rw [readFile] at h
  generalize lines newline file = ls at h
  induction ls generalizing s with
  | nil =>
    cases h
    exact hs
  | cons line rest ih =>
    rw [List.foldlM_cons] at h
    obtain ⟨u, hline, h⟩ := bind_eq_ok.mp h
    obtain ⟨r, -, hadvance⟩ := exists_decode_of_readLine hline
    exact ih (hstep s r u hs hadvance) h

theorem replay_append {rs' : List ρ} : reader.replay s (rs ++ rs') = .ok t ↔
    ∃ u, reader.replay s rs = .ok u ∧ reader.replay u rs' = .ok t := by
  rw [Reader.replay, List.foldlM_append, bind_eq_ok]
  rfl

theorem replay_concat : reader.replay s (rs ++ [r]) = .ok t ↔
    ∃ u, reader.replay s rs = .ok u ∧ reader.advance u r = .ok t := by
  rw [replay_append]
  simp [Reader.replay]

theorem Dead.append (h : Dead codec reader s file) (more : List α) :
    Dead codec reader s (file ++ more) := by
  intro rest t
  rw [List.append_assoc]
  exact h _ t

theorem Dead.ne_ok (h : Dead codec reader s file) : readFile codec reader s file ≠ .ok t := by
  have hnil := h [] t
  rwa [List.append_nil] at hnil

/-! ### What an append makes of a file -/

/-- A text whose first line cannot be decoded is not read. -/
theorem readFile_ne_ok_of_opening {last : List α} (hlast : newline ∉ last)
    (hopening : codec.opening ≠ newline) (hdecode : ∃ r, codec.decode last = .ok r)
    (rest : List α) : readFile codec reader s (last ++ codec.opening :: rest) ≠ .ok t := by
  obtain ⟨r, hr⟩ := hdecode
  -- the line goes on with the opening byte, up to the next newline
  obtain ⟨line, hline, hrest⟩ := exists_firstLine newline rest
  have hmem : newline ∉ last ++ codec.opening :: line := by
    simp [hlast, hline, Ne.symm hopening]
  have hne : last ++ codec.opening :: line ≠ [] := by simp
  have hrefused : ∀ v, readLine codec reader s (last ++ codec.opening :: line) ≠ .ok v := by
    intro v hv
    obtain ⟨r', hr', -⟩ := exists_decode_of_readLine hv
    exact codec.decode_continued last r line r' hr hr'
  obtain rfl | ⟨more, rfl⟩ := hrest
  · rw [readFile_line hmem hne]
    exact hrefused t
  · rw [← List.cons_append, ← List.append_assoc, readFile_line_newline hmem hne]
    intro h
    obtain ⟨v, hv, -⟩ := bind_eq_ok.mp h
    exact hrefused v hv

/-- **Gluing.** On a file that could be read and is not settled, the beginning of an encoding is
the end of every reading. -/
theorem dead_of_unsettled (hread : readFile codec reader s file = .ok u)
    (hunsettled : ¬Settled newline file) (r : ρ) (rest : List α) :
    Dead codec reader s (file ++ codec.opening :: rest) := by
  obtain ⟨front, last, rfl, hfront, hlast⟩ := exists_lastLine newline file
  have hne : last ≠ [] := by
    rintro rfl
    rw [List.append_nil] at hunsettled
    exact hunsettled hfront
  rw [hfront.readFile_append] at hread
  obtain ⟨v, hv, hline⟩ := bind_eq_ok.mp hread
  rw [readFile_line hlast hne] at hline
  intro more t hmore
  rw [List.append_assoc, List.append_assoc, hfront.readFile_append] at hmore
  obtain ⟨v', -, hglued⟩ := bind_eq_ok.mp hmore
  rw [List.cons_append] at hglued
  obtain ⟨r', hr', -⟩ := exists_decode_of_readLine hline
  exact readFile_ne_ok_of_opening hlast (opening_ne_newline codec r) ⟨r', hr'⟩ _ hglued

/-- A record that the reader refuses is the end of every reading too. -/
theorem dead_of_refused (hsettled : Settled newline file)
    (hread : readFile codec reader s file = .ok u) (hrefused : ∀ t, reader.advance u r ≠ .ok t) :
    Dead codec reader s (file ++ entry codec r) := by
  intro rest t h
  rw [(settled_entry codec r file).readFile_append, hsettled.readFile_append, hread] at h
  obtain ⟨v, hv, -⟩ := bind_eq_ok.mp h
  obtain ⟨u', hu', hv⟩ := bind_eq_ok.mp hv
  cases hu'
  rw [readFile_entry] at hv
  exact hrefused v hv

/-- **One append.** Either the file was settled and the reader takes the record up, or the file
is dead. -/
theorem readFile_append_entry (hread : readFile codec reader s file = .ok u) (r : ρ) :
    (∃ t, Settled newline file ∧ reader.advance u r = .ok t ∧
      readFile codec reader s (file ++ entry codec r) = .ok t) ∨
    Dead codec reader s (file ++ entry codec r) := by
  by_cases hsettled : Settled newline file
  · cases hadvance : reader.advance u r with
    | error e => exact .inr (dead_of_refused hsettled hread fun t => by simp [hadvance])
    | ok t =>
      refine .inl ⟨t, hsettled, rfl, ?_⟩
      rw [hsettled.readFile_append, hread, ← hadvance]
      exact readFile_entry
  · obtain ⟨rest, hrest⟩ := codec.encode_opening r
    have hdead := dead_of_unsettled hread hsettled r (rest ++ [newline])
    rw [entry, hrest, List.cons_append]
    exact .inr hdead

/-- **Whole entries.** What is read after some appends. -/
theorem readFile_entries_iff (hread : readFile codec reader s file = .ok u) :
    readFile codec reader s (file ++ entries codec rs) = .ok t ↔
      (rs = [] ∨ Settled newline file) ∧ reader.replay u rs = .ok t := by
  induction rs generalizing file u with
  | nil =>
    rw [entries, List.flatMap_nil, List.append_nil, hread]
    simp [Reader.replay, pure_eq_ok]
  | cons r rs ih =>
    have hcons : file ++ entries codec (r :: rs) = file ++ entry codec r ++ entries codec rs := by
      rw [entries, List.flatMap_cons, ← List.append_assoc, entries]
    rw [hcons, replay_cons]
    constructor
    · intro h
      obtain ⟨v, hsettled, hv, hread'⟩ | hdead := readFile_append_entry hread r
      · rw [ih hread'] at h
        exact ⟨.inr hsettled, v, hv, h.2⟩
      · exact absurd h (hdead _ t)
    · rintro ⟨hsettled, v, hv, hrest⟩
      have hsettled : Settled newline file := hsettled.resolve_left (List.cons_ne_nil r rs)
      have hread' : readFile codec reader s (file ++ entry codec r) = .ok v := by
        rw [hsettled.readFile_append, hread, ← hv]
        exact readFile_entry
      exact (ih hread').mpr ⟨.inr (settled_entry codec r file), hrest⟩

/-- **A torn append.** The part of an entry that an interrupted write left can be read over only
if it is nothing, or if the whole record is there. -/
theorem readFile_torn (hread : readFile codec reader s file = .ok u)
    (htorn : torn <+: entry codec r) (h : readFile codec reader s (file ++ torn) = .ok t) :
    (torn = [] ∧ t = u) ∨
      (codec.encode r <+: torn ∧ Settled newline file ∧ reader.advance u r = .ok t) := by
  by_cases hnil : torn = []
  · rw [hnil, List.append_nil, hread] at h
    exact .inl ⟨hnil, (Except.ok.inj h).symm⟩
  right
  obtain ⟨rest, hrest⟩ := codec.encode_opening r
  -- what is there begins with the opening byte
  have hopening : ∃ more, torn = codec.opening :: more := by
    obtain ⟨b, more, rfl⟩ := List.exists_cons_of_ne_nil hnil
    rw [entry, hrest, List.cons_append, List.cons_prefix_cons] at htorn
    exact ⟨more, by rw [htorn.1]⟩
  have hsettled : Settled newline file := by
    by_contra hunsettled
    obtain ⟨more, rfl⟩ := hopening
    exact (dead_of_unsettled hread hunsettled r more).ne_ok h
  rw [hsettled.readFile_append, hread] at h
  replace h : readFile codec reader u torn = .ok t := h
  obtain hwhole | hpart := List.prefix_concat_iff.mp htorn
  · rw [hwhole] at h ⊢
    exact ⟨List.prefix_append _ _, hsettled, readFile_entry.symm.trans h⟩
  · have hmem : newline ∉ torn := fun hmem => codec.newline_not_mem r (hpart.subset hmem)
    by_cases heq : torn = codec.encode r
    · subst heq
      exact ⟨List.prefix_rfl, hsettled, readFile_encode.symm.trans h⟩
    · rw [readFile_line hmem hnil] at h
      obtain ⟨r', hr', -⟩ := exists_decode_of_readLine h
      exact absurd hr' (codec.decode_truncated r torn r' hpart heq)

/-- On a settled file that can be read after a torn append, only the newline may be missing. -/
theorem settled_torn_iff (hsettled : Settled newline file) (htorn : torn <+: entry codec r)
    (h : readFile codec reader s (file ++ torn) = .ok t) :
    Settled newline (file ++ torn) ↔ torn ≠ codec.encode r := by
  obtain ⟨u, hread, -⟩ := bind_eq_ok.mp (hsettled.readFile_append torn ▸ h)
  have hunsettled : ¬Settled newline (file ++ codec.encode r) := by
    rintro (hnil | ⟨a, ha⟩)
    · exact encode_ne_nil codec r (List.append_eq_nil_iff.mp hnil).2
    · have hlast := congrArg List.getLast? ha
      rw [List.getLast?_append_of_ne_nil _ (encode_ne_nil codec r), List.getLast?_concat] at hlast
      exact codec.newline_not_mem r (List.mem_of_getLast? hlast)
  constructor
  · rintro hafter rfl
    exact hunsettled hafter
  · intro hne
    obtain ⟨rfl, -⟩ | ⟨hwhole, -, -⟩ := readFile_torn hread htorn h
    · rwa [List.append_nil]
    · -- the record is there, so what is not only the record is the entry
      obtain rfl | hpart := List.prefix_concat_iff.mp htorn
      · exact settled_entry codec r file
      · exact absurd (hpart.eq_of_length_le hwhole.length_le) hne

end Foundation.Journal
