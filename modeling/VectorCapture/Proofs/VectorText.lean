import VectorCapture.Proofs.Requests
import VectorCapture.TestVector

/-! # Reading back the text of a vector

    The text of a list of fields reads back as that list whenever every name is *plain*: no
    line feed in it, and no blank character at either end. Conversely, every name that reading
    produces is plain, so the text written for a list of fields is the one canonical form of
    what reading accepts. The route, one layer of the reader at a time:

    * hexadecimal: the UTF-8 bytes of the digits of a byte string decode to it
      (`Hex.decode_encodeChars`);
    * lines: the text of `n` fields cuts into `n` lines, one per field (`Text.lines_flatMap`);
    * one line: trimming leaves it whole, its last colon is the one behind the name, and the
      name and bytes come back (`TestVector.parseLine_lineBody`);
    * the converse: a line holds no line feed, and a name cut from a trimmed line at its last
      colon, less trailing blanks, has no blank at either end (`TestVector.plain_of_parse`). -/

namespace VectorCapture

open Text

/-! ## Trimming -/

namespace Text

theorem trimStart_eq_self {cs : List Char} (h : ∀ c ∈ cs.head?, isBlank c = false) :
    trimStart cs = cs := by
  cases cs with
  | nil => rfl
  | cons c rest => simp [trimStart, h c rfl]

theorem trimEnd_eq_self {cs : List Char} (h : ∀ c ∈ cs.getLast?, isBlank c = false) :
    trimEnd cs = cs := by
  have hrev : ∀ c ∈ cs.reverse.head?, isBlank c = false := by simpa using h
  unfold trimEnd
  rw [← trimStart, trimStart_eq_self hrev, List.reverse_reverse]

/-- A text whose ends are not blank is its own trim. -/
theorem trim_eq_self {cs : List Char} (hhead : ∀ c ∈ cs.head?, isBlank c = false)
    (hlast : ∀ c ∈ cs.getLast?, isBlank c = false) : trim cs = cs := by
  rw [trim, trimStart_eq_self hhead, trimEnd_eq_self hlast]

theorem trimEnd_isPrefix (cs : List Char) : trimEnd cs <+: cs := by
  have h := List.dropWhile_suffix isBlank (l := cs.reverse)
  simpa [trimEnd] using h.reverse

theorem trimStart_suffix (cs : List Char) : trimStart cs <:+ cs :=
  List.dropWhile_suffix isBlank

theorem head?_trimStart (cs : List Char) : ∀ c ∈ (trimStart cs).head?, isBlank c = false := by
  intro c hc
  have h := List.head?_dropWhile_not isBlank cs
  rw [show cs.dropWhile isBlank = trimStart cs from rfl, Option.mem_def.mp hc] at h
  exact h

theorem getLast?_trimEnd (cs : List Char) : ∀ c ∈ (trimEnd cs).getLast?, isBlank c = false := by
  intro c hc
  have h := List.head?_dropWhile_not isBlank cs.reverse
  rw [trimEnd, List.getLast?_reverse] at hc
  rw [Option.mem_def.mp hc] at h
  exact h

/-- A prefix that is not empty starts where the text starts. -/
theorem head?_of_isPrefix {p cs : List Char} (h : p <+: cs) (hp : p ≠ []) : p.head? = cs.head? := by
  obtain ⟨t, rfl⟩ := h
  cases p with
  | nil => exact absurd rfl hp
  | cons c rest => rfl

/-- Trimming the end keeps a start that is not blank. -/
theorem head?_trimEnd {cs : List Char} (h : ∀ c ∈ cs.head?, isBlank c = false) :
    ∀ c ∈ (trimEnd cs).head?, isBlank c = false := by
  intro c hc
  have hne : trimEnd cs ≠ [] := by
    intro he
    rw [he] at hc
    cases hc
  rw [head?_of_isPrefix (trimEnd_isPrefix cs) hne] at hc
  exact h c hc

/-- The trim of a text starts with a character that is not blank. -/
theorem head?_trim (cs : List Char) : ∀ c ∈ (trim cs).head?, isBlank c = false :=
  head?_trimEnd (head?_trimStart cs)

theorem trim_sublist (cs : List Char) : List.Sublist (trim cs) cs :=
  (trimEnd_isPrefix _).sublist.trans (trimStart_suffix cs).sublist

end Text

/-! ## Lines -/

namespace Text

/-- A piece with no line feed is read as one line up to the line feed that ends it. -/
theorem linesFrom_append {l : List Char} (h : '\n' ∉ l) (rest cur : List Char) :
    linesFrom (l ++ '\n' :: rest) cur = dropReturn (cur.reverse ++ l) :: linesFrom rest [] := by
  induction l generalizing cur with
  | nil => simp [linesFrom]
  | cons c l ih =>
      have hc : c ≠ '\n' := fun he => h (he ▸ List.mem_cons_self)
      have hl : '\n' ∉ l := fun hm => h (List.mem_cons_of_mem c hm)
      rw [List.cons_append, linesFrom.eq_3 _ _ _ hc, ih hl]
      simp

/-- Pieces with no line feed, each ended by one, are read back as those pieces. -/
theorem lines_flatMap (ls : List (List Char)) (h : ∀ l ∈ ls, '\n' ∉ l) :
    lines (ls.flatMap (· ++ ['\n'])) = ls.map dropReturn := by
  induction ls with
  | nil => rfl
  | cons l rest ih =>
      have hl := h l List.mem_cons_self
      have hrest : ∀ l' ∈ rest, '\n' ∉ l' := fun l' hm => h l' (List.mem_cons_of_mem l hm)
      rw [List.flatMap_cons, List.append_assoc, List.singleton_append, lines,
        linesFrom_append hl]
      simpa [lines] using ih hrest

theorem dropReturn_eq_self {l : List Char} (h : l.getLast? ≠ some '\r') : dropReturn l = l := by
  unfold dropReturn
  split
  · next rest hrev =>
      have : l.getLast? = some '\r' := by rw [← List.head?_reverse, hrev]; rfl
      exact absurd this h
  · rfl

theorem dropReturn_sublist (l : List Char) : List.Sublist (dropReturn l) l := by
  unfold dropReturn
  split
  · next rest hrev =>
      have hl : l = rest.reverse ++ ['\r'] := by
        rw [← List.reverse_reverse l, hrev]
        simp
      rw [hl]
      exact List.sublist_append_left _ _
  · exact List.Sublist.refl l

/-- No line holds a line feed. -/
theorem newline_not_mem_lines (cs : List Char) : ∀ l ∈ lines cs, '\n' ∉ l := by
  suffices ∀ cur, '\n' ∉ cur → ∀ l ∈ linesFrom cs cur, '\n' ∉ l from this [] (by simp)
  induction cs with
  | nil =>
      intro cur hcur l hl
      simp only [linesFrom] at hl
      split at hl
      · cases hl
      · simp only [List.mem_singleton] at hl
        simpa [hl] using hcur
  | cons c rest ih =>
      intro cur hcur l hl
      by_cases hc : c = '\n'
      · subst hc
        rw [linesFrom.eq_2] at hl
        rcases List.mem_cons.mp hl with rfl | hmem
        · exact fun hm => hcur (by simpa using (dropReturn_sublist _).subset hm)
        · exact ih [] (by simp) l hmem
      · rw [linesFrom.eq_3 _ _ _ hc] at hl
        exact ih (c :: cur) (by simp [Ne.symm hc, hcur]) l hl

end Text

/-! ## Hexadecimal digits -/

namespace Hex

/-- A hexadecimal digit is one byte of UTF-8, which reads back as the digit's value; it is
neither blank nor a colon. -/
theorem hexDigit_facts : ∀ m : Fin 16,
    (hexDigit m.val).toNat < 128 ∧
      digitValue? (hexDigit m.val).toNat.toUInt8 = some m.val.toUInt8 ∧
      isBlank (hexDigit m.val) = false ∧ hexDigit m.val ≠ ':' := by
  decide

theorem utf8EncodeChar_hexDigit {n : Nat} (h : n < 16) :
    String.utf8EncodeChar (hexDigit n) = [(hexDigit n).toNat.toUInt8] := by
  have hlt : (hexDigit n).toNat < 128 := (hexDigit_facts ⟨n, h⟩).1
  simp [String.utf8EncodeChar]
  omega

/-- A byte is its high digit times sixteen plus its low digit. -/
theorem byte_of_digits (x : UInt8) : (x.toNat / 16).toUInt8 * 16 + (x.toNat % 16).toUInt8 = x := by
  have hx := x.toNat_lt
  apply UInt8.toNat_inj.mp
  simp [UInt8.toNat_add, UInt8.toNat_mul]
  omega

/-- Reading the digits of a byte string, pair by pair, gives the byte string. -/
theorem decodePairs_encodeChars (i : Nat) (acc bs : List UInt8) :
    decodePairs i acc ((encodeChars bs).flatMap String.utf8EncodeChar) = .ok (acc.reverse ++ bs) := by
  induction bs generalizing i acc with
  | nil => simp [encodeChars, decodePairs]
  | cons x rest ih =>
      have hx := x.toNat_lt
      have hhi : x.toNat / 16 < 16 := by omega
      have hlo : x.toNat % 16 < 16 := by omega
      have hdigits : (encodeChars (x :: rest)).flatMap String.utf8EncodeChar =
          (hexDigit (x.toNat / 16)).toNat.toUInt8 :: (hexDigit (x.toNat % 16)).toNat.toUInt8 ::
            (encodeChars rest).flatMap String.utf8EncodeChar := by
        simp [encodeChars, byteDigits, utf8EncodeChar_hexDigit hhi, utf8EncodeChar_hexDigit hlo]
      rw [hdigits, decodePairs, (hexDigit_facts ⟨_, hhi⟩).2.1, (hexDigit_facts ⟨_, hlo⟩).2.1]
      dsimp only
      rw [ih, byte_of_digits]
      simp

theorem length_encodeChars (bs : List UInt8) :
    ((encodeChars bs).flatMap String.utf8EncodeChar).length = 2 * bs.length := by
  induction bs with
  | nil => rfl
  | cons x rest ih =>
      have hx := x.toNat_lt
      simp [encodeChars, byteDigits, utf8EncodeChar_hexDigit (show x.toNat / 16 < 16 by omega),
        utf8EncodeChar_hexDigit (show x.toNat % 16 < 16 by omega)] at ih ⊢
      omega

/-- The digits of a byte string, as UTF-8, decode to that byte string. -/
theorem decode_encodeChars (bs : List UInt8) :
    decode ((encodeChars bs).flatMap String.utf8EncodeChar) = .ok bs := by
  rw [decode, if_neg (by rw [length_encodeChars]; omega), decodePairs_encodeChars]
  rfl

/-- Every digit is neither blank nor a colon. -/
theorem not_blank_of_mem_encodeChars {bs : List UInt8} {c : Char} (h : c ∈ encodeChars bs) :
    isBlank c = false ∧ c ≠ ':' := by
  obtain ⟨x, -, hc⟩ := List.mem_flatMap.mp h
  have hx := x.toNat_lt
  simp only [byteDigits, List.mem_cons, List.not_mem_nil, or_false] at hc
  rcases hc with rfl | rfl
  · exact (hexDigit_facts ⟨_, show x.toNat / 16 < 16 by omega⟩).2.2
  · exact (hexDigit_facts ⟨_, show x.toNat % 16 < 16 by omega⟩).2.2

end Hex

/-! ## One line -/

namespace TestVector

/-- Whether a field name survives its line: no line feed in it, and no blank character at
either end. -/
def isPlainName (name : String) : Bool :=
  !name.toList.contains '\n' && name.toList.head?.all (!isBlank ·) &&
    name.toList.getLast?.all (!isBlank ·)

theorem isPlainName_iff (name : String) :
    isPlainName name = true ↔ '\n' ∉ name.toList ∧
      (∀ c ∈ name.toList.head?, isBlank c = false) ∧
      (∀ c ∈ name.toList.getLast?, isBlank c = false) := by
  simp [isPlainName, Option.all_eq_true, and_assoc]

/-- The characters of a field's line, before the line feed that ends it. -/
def lineBody (f : Field) : List Char :=
  f.name.toList ++ ':' :: ' ' :: '0' :: 'x' :: Hex.encodeChars f.bytes.reverse

theorem toList_renderFields (fs : List Field) :
    (renderFields fs).toList = (fs.map lineBody).flatMap (· ++ ['\n']) := by
  simp [renderFields, String.toList_join, line, lineBody, Field.value, Hex.encode,
    List.flatMap_map]

theorem utf8_eq (cs : List Char) : utf8 cs = cs.flatMap String.utf8EncodeChar := by
  simp [utf8, List.utf8Encode]

/-- The last colon of a text with no colon after it splits it there. -/
theorem splitAtLast_append {before after : List Char} {sep : Char} (h : sep ∉ after) :
    splitAtLast sep (before ++ sep :: after) = some (before, after) := by
  have hall : ∀ c ∈ after.reverse, (c != sep) = true := by
    intro c hc
    simpa [bne_iff_ne] using fun he : c = sep => h (he ▸ List.mem_reverse.mp hc)
  simp [splitAtLast, List.span_eq_takeWhile_dropWhile, List.takeWhile_append_of_pos hall,
    List.dropWhile_append_of_pos hall]

/-- What a split at the last colon gives: the text around that colon, none after it. -/
theorem eq_of_splitAtLast {cs before after : List Char} {sep : Char}
    (h : splitAtLast sep cs = some (before, after)) : cs = before ++ sep :: after ∧ sep ∉ after := by
  unfold splitAtLast at h
  rw [List.span_eq_takeWhile_dropWhile] at h
  split at h
  · cases h
  · next tw x rest hspan =>
      obtain ⟨htw, hdw⟩ := Prod.mk.inj hspan
      obtain ⟨rfl, rfl⟩ := Prod.mk.inj (Option.some.inj h)
      have hx : (x != sep) = false := by
        have := List.head?_dropWhile_not (· != sep) cs.reverse
        rw [hdw] at this
        exact this
      have hsep : x = sep := by simpa using hx
      subst hsep
      have hrev : cs.reverse = tw ++ x :: rest := by
        rw [← htw, ← hdw, List.takeWhile_append_dropWhile]
      refine ⟨by simpa using congrArg List.reverse hrev, ?_⟩
      intro hmem
      have hmem' : x ∈ cs.reverse.takeWhile (· != x) := by
        rw [htw]
        exact List.mem_reverse.mp hmem
      have hne := List.all_eq_true.mp List.all_takeWhile x hmem'
      simp at hne

/-- The line of a field ends with a digit of its value, or with the `x` of `0x`. -/
theorem getLast?_lineBody (f : Field) :
    ∀ c ∈ (lineBody f).getLast?, isBlank c = false ∧ c ≠ '\r' := by
  intro c hc
  rw [lineBody, List.getLast?_append] at hc
  have hc' : c ∈ ('x' :: Hex.encodeChars f.bytes.reverse).getLast? := by
    simpa [List.getLast?_cons] using hc
  rw [List.getLast?_cons] at hc'
  cases hlast : (Hex.encodeChars f.bytes.reverse).getLast? with
  | none =>
      rw [hlast] at hc'
      cases Option.mem_def.mp hc'
      decide
  | some d =>
      rw [hlast] at hc'
      cases Option.mem_def.mp hc'
      have := Hex.not_blank_of_mem_encodeChars (List.mem_of_getLast? hlast)
      refine ⟨this.1, ?_⟩
      rintro rfl
      exact absurd this.1 (by decide)

variable {f : Field}

theorem newline_not_mem_lineBody (hf : isPlainName f.name = true) : '\n' ∉ lineBody f := by
  have hname := ((isPlainName_iff _).mp hf).1
  intro hmem
  simp only [lineBody, List.mem_append, List.mem_cons] at hmem
  rcases hmem with h | h | h | h | h | h
  · exact hname h
  all_goals first
    | exact absurd h (by decide)
    | exact absurd (Hex.not_blank_of_mem_encodeChars h).1 (by decide)

theorem trim_lineBody (hf : isPlainName f.name = true) : trim (lineBody f) = lineBody f := by
  obtain ⟨-, hhead, -⟩ := (isPlainName_iff _).mp hf
  refine trim_eq_self ?_ (fun c hc => (getLast?_lineBody f c hc).1)
  intro c hc
  cases hname : f.name.toList with
  | nil =>
      simp only [lineBody, hname, List.nil_append, List.head?_cons, Option.mem_def,
        Option.some.injEq] at hc
      subst hc
      decide
  | cons d rest =>
      simp only [lineBody, hname, List.cons_append, List.head?_cons, Option.mem_def,
        Option.some.injEq] at hc
      subst hc
      exact hhead _ (by simp [hname])

/-- The line of a field with a plain name reads back as that field. -/
theorem parseLine_lineBody (n : Nat) (hf : isPlainName f.name = true) :
    parseLine n (lineBody f) = .ok f := by
  obtain ⟨-, -, hlast⟩ := (isPlainName_iff _).mp hf
  have hcolon : ':' ∉ ' ' :: '0' :: 'x' :: Hex.encodeChars f.bytes.reverse := by
    intro hmem
    simp only [List.mem_cons] at hmem
    rcases hmem with h | h | h | h
    all_goals first
      | exact absurd h (by decide)
      | exact (Hex.not_blank_of_mem_encodeChars h).2 rfl
  have hvalue : trim (' ' :: '0' :: 'x' :: Hex.encodeChars f.bytes.reverse) =
      '0' :: 'x' :: Hex.encodeChars f.bytes.reverse := by
    rw [trim, trimStart, List.dropWhile_cons_of_pos (by decide),
      List.dropWhile_cons_of_neg (by decide)]
    apply trimEnd_eq_self
    intro c hc
    exact (getLast?_lineBody f c (by simpa [lineBody, List.getLast?_append] using hc)).1
  have hstrip : stripMarker ('0' :: 'x' :: Hex.encodeChars f.bytes.reverse) =
      some (Hex.encodeChars f.bytes.reverse) := rfl
  unfold parseLine
  rw [trim_lineBody hf, lineBody, splitAtLast_append hcolon]
  dsimp only
  rw [hvalue, hstrip]
  dsimp only
  rw [utf8_eq, Hex.decode_encodeChars, trimEnd_eq_self hlast]
  simp

/-! ## The whole text -/

/-- Lines that are the lines of fields with plain names read back as those fields. -/
theorem parseLines_lineBody (n : Nat) (acc fs : List Field)
    (plain : ∀ f ∈ fs, isPlainName f.name = true) :
    parseLines n acc (fs.map lineBody) = .ok (acc.reverse ++ fs) := by
  induction fs generalizing n acc with
  | nil => simp [parseLines]
  | cons f rest ih =>
      have hf := plain f List.mem_cons_self
      have hne : (trim (lineBody f)).isEmpty = false := by
        rw [trim_lineBody hf]
        simp [lineBody]
      rw [List.map_cons, parseLines, if_neg (by simp [hne]), parseLine_lineBody n hf]
      dsimp only
      rw [ih (n + 1) (f :: acc) (fun f' hm => plain f' (List.mem_cons_of_mem f hm))]
      simp

/-- **Writing, then reading.** The text of fields whose names are plain reads back as those
fields. -/
theorem parse_renderFields (fs : List Field) (plain : ∀ f ∈ fs, isPlainName f.name = true) :
    parse (renderFields fs) = .ok ⟨fs⟩ := by
  have hbodies : ∀ l ∈ fs.map lineBody, '\n' ∉ l := by
    intro l hl
    obtain ⟨f, hf, rfl⟩ := List.mem_map.mp hl
    exact newline_not_mem_lineBody (plain f hf)
  have hreturns : (fs.map lineBody).map dropReturn = fs.map lineBody := by
    rw [List.map_map]
    apply List.map_congr_left
    intro f _
    apply dropReturn_eq_self
    intro hlast
    exact (getLast?_lineBody f '\r' hlast).2 rfl
  rw [parse, toList_renderFields, lines_flatMap _ hbodies, hreturns, parseLines_lineBody 1 [] fs plain]
  rfl

/-- A name cut from a line is plain: the line holds no line feed, the trimmed line starts with a
character that is not blank, and trimming the end of the name leaves no blank at its end. -/
theorem plain_of_parseLine {n : Nat} {raw : List Char} {f : Field} (hraw : '\n' ∉ raw)
    (h : parseLine n raw = .ok f) : isPlainName f.name = true := by
  unfold parseLine at h
  split at h
  · cases h
  · next name value hsplit =>
      split at h
      · cases h
      · next digits _ =>
          split at h
          · cases h
          · next bs _ =>
              cases h
              obtain ⟨htrim, -⟩ := eq_of_splitAtLast hsplit
              rw [isPlainName_iff, String.toList_ofList]
              refine ⟨?_, ?_, getLast?_trimEnd name⟩
              · intro hmem
                have hname : '\n' ∈ trim raw := by
                  rw [htrim]
                  exact List.mem_append_left _ ((trimEnd_isPrefix name).subset hmem)
                exact hraw ((trim_sublist raw).subset hname)
              · apply head?_trimEnd
                intro c hc
                have hne : name ≠ [] := by
                  rintro rfl
                  cases hc
                have hpre : name <+: trim raw := ⟨':' :: value, htrim.symm⟩
                rw [head?_of_isPrefix hpre hne] at hc
                exact head?_trim raw c hc

theorem plain_of_parseLines {n : Nat} {acc : List Field} {ls : List (List Char)}
    {fs : List Field} (hacc : ∀ f ∈ acc, isPlainName f.name = true)
    (hls : ∀ l ∈ ls, '\n' ∉ l) (h : parseLines n acc ls = .ok fs) :
    ∀ f ∈ fs, isPlainName f.name = true := by
  induction ls generalizing n acc with
  | nil =>
      simp only [parseLines, Except.ok.injEq] at h
      subst h
      simpa using hacc
  | cons raw rest ih =>
      have hrest : ∀ l ∈ rest, '\n' ∉ l := fun l hm => hls l (List.mem_cons_of_mem raw hm)
      rw [parseLines] at h
      split at h
      · exact ih hacc hrest h
      · split at h
        · cases h
        · next f hline =>
            have hf := plain_of_parseLine (hls raw List.mem_cons_self) hline
            refine ih ?_ hrest h
            intro f' hm
            rcases List.mem_cons.mp hm with rfl | hm
            · exact hf
            · exact hacc f' hm

/-- **Reading, then writing.** Every name that reading produces is plain. -/
theorem plain_of_parse {text : String} {v : TestVector} (h : parse text = .ok v) :
    ∀ f ∈ v.fields, isPlainName f.name = true := by
  unfold parse at h
  cases hlines : parseLines 1 [] (lines text.toList) with
  | error e =>
      rw [hlines] at h
      cases h
  | ok fs =>
      rw [hlines] at h
      cases h
      exact plain_of_parseLines (by simp) (newline_not_mem_lines _) hlines

/-- The byte count of a vector is the total length of its fields. -/
theorem byteCount_eq_sum (fs : List Field) :
    TestVector.byteCount ⟨fs⟩ = (fs.map (·.bytes.length)).sum := by
  induction fs with
  | nil => rfl
  | cons f rest ih =>
      simp only [TestVector.byteCount, List.foldr_cons, List.map_cons, List.sum_cons] at ih ⊢
      rw [ih]

end TestVector

end VectorCapture
