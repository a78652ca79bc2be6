import VectorCapture.Proofs.VectorText
import VectorCapture.Store

/-! # A vector written to the store reads back

    `persist` writes a record's text in full under a fresh hidden name of the store's
    directory and moves it over the record's final name; `load` reads a final name back. After
    a `persist` that succeeds, `load` of the location it answered gives back exactly the fields
    of the record, whenever their names are plain. The route:

    * path texts: `splitOn "/"` cuts a text where its characters are slashes (`splitOn_slash`),
      so a name joined to a directory text is one more name of it (`textNames_joinText`);
    * the disk: a walk through directories only needs the directories it passes
      (`Disk.enter_of_dirs`), and neither a new file nor a rename over a file takes one away, so
      a rename puts the file where its destination leads (`Disk.lookup_rename`);
    * the store: staging makes an empty file where the staged location leads and writes the
      text over it, or takes the file away when the write fails (`Store.stage_cases`), and the
      rename puts it where the final location leads (`Store.read_persist`).

    The last section states the whole round trip of a record's text (`Record.render_round_trip`). -/

namespace VectorCapture

/-! ## Path texts -/

open String in
/-- `splitOn "/"` scans a text one character at a time. With the text cut as `l`, the piece `m`
begun since the last slash, and the rest `r`, it gives the pieces of `m` followed by `r`. -/
theorem splitOnAux_slash (l m r : List Char) (acc : List String) :
    splitOnAux (ofList (l ++ m ++ r)) "/" ⟨utf8Len l⟩ ⟨utf8Len l + utf8Len m⟩ 0 acc =
      acc.reverse ++ (List.splitOnPPrepend (· == '/') r m.reverse).map ofList := by
  induction r generalizing l m acc with
  | nil =>
      unfold splitOnAux
      simp only [atEnd_iff, rawEndPos_ofList, utf8Len_append, Pos.Raw.mk_le_mk,
        List.append_nil, Nat.le_refl]
      simpa using extract_of_valid l m []
  | cons c r ih =>
      have hget : Pos.Raw.get (ofList (l ++ m ++ c :: r)) ⟨utf8Len l + utf8Len m⟩ = c := by
        simpa using get_of_valid (l ++ m) (c :: r)
      have hnext : Pos.Raw.next (ofList (l ++ m ++ c :: r)) ⟨utf8Len l + utf8Len m⟩ =
          ⟨utf8Len l + utf8Len m + c.utf8Size⟩ := by
        simpa using next_of_valid (l ++ m) c r
      have hend : ¬ (ofList (l ++ m ++ c :: r)).rawEndPos ≤ ⟨utf8Len l + utf8Len m⟩ := by
        rw [rawEndPos_ofList, Pos.Raw.mk_le_mk]
        simp only [utf8Len_append, utf8Len_cons]
        have := c.utf8Size_pos
        omega
      -- the separator is one byte long, so a match ends as soon as it starts
      have hsep : Pos.Raw.get "/" 0 = '/' ∧ Pos.Raw.next "/" 0 = ⟨1⟩ ∧
          Pos.Raw.atEnd "/" ⟨1⟩ = true := by
        decide
      unfold splitOnAux
      rw [if_neg (by simpa using hend), hget, hsep.1]
      split
      · next hc =>
          have hc' : c = '/' := by simpa using hc
          subst hc'
          have hextract : Pos.Raw.extract (ofList (l ++ m ++ '/' :: r)) ⟨utf8Len l⟩
              ⟨utf8Len l + utf8Len m⟩ = ofList m := by
            simpa using extract_of_valid l m ('/' :: r)
          have hstep := ih (l ++ m ++ ['/']) [] (ofList m :: acc)
          simp only [List.append_assoc, List.cons_append, List.nil_append, utf8Len_append,
            utf8Len_cons, utf8Len_nil, Nat.add_zero, List.reverse_nil] at hstep
          have hsize : '/'.utf8Size = 1 := rfl
          have hback : ({ byteIdx := utf8Len l + utf8Len m + 1 } : Pos.Raw).unoffsetBy ⟨1⟩ =
              ⟨utf8Len l + utf8Len m⟩ := by
            simp [Pos.Raw.unoffsetBy]
          simp only [hnext, hsep.2.1, hsep.2.2, if_true, hsize, hback, hextract]
          rw [hsize] at hstep
          rw [show utf8Len l + utf8Len m + 1 = utf8Len l + (utf8Len m + (0 + 1)) by omega,
            List.append_assoc, hstep, List.splitOnPPrepend_cons_pos (by rfl)]
          simp
      · next hc =>
          have hstep := ih l (m ++ [c]) acc
          simp only [List.append_assoc, List.cons_append, List.nil_append, utf8Len_append,
            utf8Len_cons, utf8Len_nil, Nat.zero_add, List.reverse_append, List.reverse_cons,
            List.reverse_nil] at hstep
          have hzero : ({ byteIdx := utf8Len l + utf8Len m } : Pos.Raw).unoffsetBy 0 =
              ⟨utf8Len l + utf8Len m⟩ := by
            simp [Pos.Raw.unoffsetBy]
          rw [hzero, hnext,
            show utf8Len l + utf8Len m + c.utf8Size = utf8Len l + (utf8Len m + c.utf8Size) by omega,
            List.append_assoc, hstep, List.splitOnPPrepend_cons_neg (by simpa using hc)]

/-- A text splits at `/` exactly where its characters are slashes. -/
theorem splitOn_slash (s : String) : s.splitOn "/" = (s.toList.splitOn '/').map String.ofList := by
  have h := splitOnAux_slash [] [] s.toList []
  simp only [List.nil_append, String.ofList_toList, String.utf8Len_nil, Nat.add_zero,
    List.reverse_nil, List.splitOnPPrepend_nil_right] at h
  rw [String.splitOn, if_neg (by decide), List.splitOn_eq_splitOnP]
  exact h

/-- The names of a path text are its pieces between slashes that are not empty. -/
theorem textNames_eq (s : String) :
    textNames s = ((s.toList.splitOn '/').filter (· ≠ [])).map String.ofList := by
  rw [textNames, splitOn_slash, List.filter_map]
  congr 1
  apply List.filter_congr
  intro x _
  have h : (String.ofList x).isEmpty = decide (x = []) := by
    rw [Bool.eq_iff_iff, String.isEmpty_iff, String.ofList_eq_empty_iff, decide_eq_true_iff]
  simp [h]

/-- A name with no slash, joined to a directory text, is one more name of it. -/
theorem textNames_joinText (t nm : String) (hne : nm.toList ≠ []) (hslash : '/' ∉ nm.toList) :
    textNames (joinText t nm) = textNames t ++ [nm] := by
  have hnm : (nm.toList.splitOn '/') = [nm.toList] := List.splitOn_eq_singleton hslash
  unfold joinText
  split
  · next hempty =>
      have ht : t = "" := by simpa [String.isEmpty_iff] using hempty
      subst ht
      simp [textNames_eq, hnm, hne]
  · split
    · next _ hend =>
        have hsuf : ['/'] <:+ t.toList := by
          simpa [← String.endsWith_toSlice, String.Slice.endsWith_string_iff] using hend
        obtain ⟨t', ht'⟩ := hsuf
        rw [textNames_eq, textNames_eq, String.toList_append, ← ht']
        simp [List.splitOn_append_cons_self, hnm, hne]
    · rw [textNames_eq, textNames_eq, String.toList_append, String.toList_append]
      simp [List.splitOn_append_cons_self, hnm, hne]

theorem isAbsoluteText_iff (s : String) : isAbsoluteText s = true ↔ s.toList.head? = some '/' := by
  rw [isAbsoluteText, String.startsWith_string_iff]
  cases s.toList with
  | nil => simp
  | cons c rest => simp [List.cons_prefix_cons, eq_comm]

theorem endsWith_slash_iff (s : String) : s.endsWith "/" = true ↔ s.toList.getLast? = some '/' := by
  rw [← String.endsWith_toSlice, String.Slice.endsWith_string_iff, String.copy_toSlice,
    ← List.reverse_prefix]
  cases h : s.toList.reverse with
  | nil => simp [List.reverse_eq_nil_iff.mp h]
  | cons c rest =>
      rw [← List.head?_reverse, h]
      simp [List.cons_prefix_cons, eq_comm]

theorem toList_joinText (t nm : String) :
    (joinText t nm).toList = if t.isEmpty then nm.toList
      else if t.endsWith "/" then t.toList ++ nm.toList else t.toList ++ '/' :: nm.toList := by
  unfold joinText
  split
  · rfl
  · split <;> simp

/-- Joining a name that does not start with a slash keeps whether the text starts from the
root. -/
theorem isAbsoluteText_joinText (t nm : String) (hne : nm.toList ≠ []) (hslash : '/' ∉ nm.toList) :
    isAbsoluteText (joinText t nm) = isAbsoluteText t := by
  apply Bool.eq_iff_iff.mpr
  rw [isAbsoluteText_iff, isAbsoluteText_iff, toList_joinText]
  split
  · next hempty =>
      have ht : t = "" := by simpa [String.isEmpty_iff] using hempty
      subst ht
      obtain ⟨c, cs, hcs⟩ := List.exists_cons_of_ne_nil hne
      have hc : c ≠ '/' := fun he => hslash (by simp [hcs, he])
      simp [hcs, hc]
  · next hempty =>
      have hne' : t.toList ≠ [] := fun h => hempty (String.isEmpty_iff.mpr (by
        rw [← String.ofList_toList (s := t), h]))
      obtain ⟨c, cs, hcs⟩ := List.exists_cons_of_ne_nil hne'
      split <;> simp [hcs]

/-- A text that ends with a name with no slash does not end with a slash. -/
theorem endsWith_joinText (t nm : String) (hne : nm.toList ≠ []) (hslash : '/' ∉ nm.toList) :
    (joinText t nm).endsWith "/" = false := by
  have hlast : ∀ pre : List Char, (pre ++ nm.toList).getLast? ≠ some '/' := by
    intro pre hl
    rw [List.getLast?_append_of_ne_nil _ hne] at hl
    exact hslash (List.mem_of_getLast? hl)
  apply Bool.eq_false_iff.mpr
  rw [ne_eq, endsWith_slash_iff, toList_joinText]
  split
  · simpa using hlast []
  · split
    · exact hlast t.toList
    · simpa using hlast (t.toList ++ ['/'])

/-! ## The disk -/

namespace Disk

theorem get?_put_of_ne (d : Disk) {p q : Path} (e : Entry) (h : p ≠ q) :
    (d.put p e).get? q = d.get? q := by
  simp [get?, put, Std.HashMap.getElem?_insert, h]

theorem get?_put_self (d : Disk) {p : Path} (e : Entry) (h : p ≠ []) : (d.put p e).get? p = some e := by
  simp [get?, put, h]

theorem get?_erase_of_ne (d : Disk) {p q : Path} (h : p ≠ q) : (d.erase p).get? q = d.get? q := by
  simp [get?, erase, Std.HashMap.getElem?_erase, h]

/-- An entry put at a free path takes away no directory. -/
theorem dirs_put_of_free (d : Disk) {x : Path} (hfree : d.get? x = none) (e : Entry) :
    ∀ q, d.get? q = some .dir → (d.put x e).get? q = some .dir := by
  intro q hq
  rw [get?_put_of_ne _ _ (fun he => by rw [← he, hfree] at hq; cases hq)]
  exact hq

variable {d d' : Disk}

/-- A walk through directories only needs the directories it passes: on a disk that keeps every
directory it goes the same way. -/
theorem enter_of_dirs (hdirs : ∀ q, d.get? q = some .dir → d'.get? q = some .dir)
    {cur : Path} {ns : List String} {p : Path} (h : d.enter cur ns = .ok p) :
    d'.enter cur ns = .ok p := by
  induction ns generalizing cur with
  | nil => simpa [enter] using h
  | cons n rest ih =>
      rw [enter] at h ⊢
      split
      · next hdot =>
          rw [if_pos hdot] at h
          exact ih h
      · next hdot =>
          rw [if_neg hdot] at h
          split
          · next hup =>
              rw [if_pos hup] at h
              exact ih h
          · next hup =>
              rw [if_neg hup] at h
              split at h
              · next hdir =>
                  rw [hdirs _ hdir]
                  exact ih h
              · cases h
              · cases h

/-- What a location comes to before its last name is the same on a disk that keeps every
directory. -/
theorem target_of_dirs (hdirs : ∀ q, d.get? q = some .dir → d'.get? q = some .dir)
    {l : Location} {t : Target} (h : d.target l = .ok t) : d'.target l = .ok t := by
  unfold target at h ⊢
  split
  · next hlast =>
      rw [hlast] at h
      exact h
  · next last hlast =>
      rw [hlast] at h
      cases he : d.enter l.start l.names.dropLast with
      | error e =>
          rw [he] at h
          cases h
      | ok parent =>
          rw [he] at h
          rw [enter_of_dirs hdirs he]
          exact h

/-- A file that a location leads to is what looking the location up and reading it give. -/
theorem read_of_target {l : Location} {parent : Path} {n content : String}
    (ht : d.target l = .ok (.entry parent n)) (hget : d.get? (parent ++ [n]) = some (.file content))
    (hdir : l.mustBeDir = false) :
    d.lookup l = .ok (parent ++ [n], .file content) ∧ d.read l = .ok content := by
  have hlookup : d.lookup l = .ok (parent ++ [n], .file content) := by
    simp only [lookup, ht, bind, Except.bind, hget, hdir, Bool.false_eq_true, if_false]
    rfl
  refine ⟨hlookup, ?_⟩
  simp only [read, stat, hlookup]
  rfl

/-- A second entry put at a path hides the first. -/
theorem get?_put_put (d : Disk) (p : Path) (e e' : Entry) (q : Path) :
    ((d.put p e).put p e').get? q = (d.put p e').get? q := by
  by_cases h : p = q
  · subst h
    simp [get?, put]
  · rw [get?_put_of_ne _ _ h, get?_put_of_ne _ _ h, get?_put_of_ne _ _ h]

/-- A disk that agrees at every path with one where an entry was put at a free path has every
directory of the disk before. -/
theorem dirs_of_agree_put {x : Path} {e : Entry} (hfree : d.get? x = none)
    (hagree : ∀ y, d'.get? y = (d.put x e).get? y) :
    ∀ q, d.get? q = some .dir → d'.get? q = some .dir := by
  intro q hq
  rw [hagree]
  exact d.dirs_put_of_free hfree e q hq

/-- A new file goes into the directory the location leads to, empty, under a name of the series
that was not in use. -/
theorem createFresh_ok {dir : Location} {pre suf name : String}
    (h : d.createFresh dir pre suf = .ok (name, d')) :
    ∃ p k, d.enter dir.start dir.names = .ok p ∧ name = seriesName pre suf k ∧
      d.get? (p ++ [name]) = none ∧ d' = d.put (p ++ [name]) (.file "") := by
  unfold createFresh at h
  cases he : d.enter dir.start dir.names with
  | error e =>
      rw [he] at h
      cases h
  | ok p =>
      rw [he] at h
      simp only [bind, Except.bind] at h
      split at h
      · next k hfind =>
          cases h
          have hfree := List.find?_some hfind
          exact ⟨p, k, rfl, rfl, by simpa using hfree, rfl⟩
      · cases h

/-- A write that succeeds puts the text in the file the location looks up, over its old text, on
a device that holds the new text in place of the old. -/
theorem write_ok {l : Location} {content : String} (h : d.write l content = .ok d') :
    ∃ p old, d.lookup l = .ok (p, .file old) ∧
      d.fits (d.used - old.utf8ByteSize + content.utf8ByteSize) = true ∧
      d' = d.put p (.file content) := by
  unfold write at h
  cases hl : d.lookup l with
  | error e =>
      rw [hl] at h
      cases h
  | ok found =>
      obtain ⟨p, e⟩ := found
      rw [hl] at h
      simp only [bind, Except.bind] at h
      cases e with
      | dir => cases h
      | file old =>
          dsimp only at h
          split at h
          · next hfits =>
              cases h
              exact ⟨p, old, rfl, hfits, rfl⟩
          · cases h

/-- A file put at a free path adds its text to what the device holds. -/
theorem used_put_of_free {x : Path} (hfree : d.get? x = none) (e : Entry) :
    (d.put x e).used = e.size + d.used := by
  have hx : x ≠ [] := fun h => by simp [get?, h] at hfree
  have hnone : d.entries[x]? = none := by simpa [get?, hx] using hfree
  -- no entry of the disk is at the new path, so putting it there replaces none
  have hkeep : d.entries.toList.filter (fun p => ¬ (x == p.1)) = d.entries.toList := by
    rw [List.filter_eq_self]
    rintro ⟨y, e'⟩ hmem
    have hy := Std.HashMap.mem_toList_iff_getElem?_eq_some.mp hmem
    have hne : x ≠ y := fun h => by rw [h, hy] at hnone; cases hnone
    simpa using hne
  have hperm := (Std.HashMap.toList_insert_perm (m := d.entries) (k := x) (v := e)).map
    fun entry => entry.2.size
  unfold used put
  rw [hperm.foldr_eq' (f := fun a b => a + b) (fun _ _ _ _ _ => Nat.add_left_comm _ _ _), hkeep,
    List.map_cons, List.foldr_cons]

/-- A device with a bound holds no more than the bound. -/
theorem le_of_fits {n cap : Nat} (hcap : d.capacity = some cap) (h : d.fits n = true) : n ≤ cap := by
  simpa [fits, hcap] using h

/-- A rename that succeeds moves the entry the source leads to over a name that is no directory,
inside the directory the destination leads to. -/
theorem rename_ok {src dst : Location} (h : d.rename src dst = .ok d') :
    ∃ srcPath e parent n, d.lookup src = .ok (srcPath, e) ∧ d.target dst = .ok (.entry parent n) ∧
      d.get? (parent ++ [n]) ≠ some .dir ∧ dst.mustBeDir = false ∧
      d' = (d.erase srcPath).put (parent ++ [n]) e := by
  unfold rename at h
  cases hl : d.lookup src with
  | error e =>
      rw [hl] at h
      cases h
  | ok found =>
      obtain ⟨srcPath, e⟩ := found
      rw [hl] at h
      simp only [bind, Except.bind] at h
      cases ht : d.target dst with
      | error err =>
          rw [ht] at h
          cases h
      | ok t =>
          rw [ht] at h
          cases t with
          | dir p => cases h
          | entry parent n =>
              dsimp only at h
              split at h
              · cases h
              · next hnotdir =>
                  cases hm : dst.mustBeDir
                  · rw [hm] at h
                    cases h
                    exact ⟨srcPath, e, parent, n, rfl, rfl, fun hd => hnotdir hd, rfl, rfl⟩
                  · rw [hm] at h
                    cases h

/-- A name with no slash, and which is neither `.` nor `..`, joined to a directory the disk
leads to, names an entry of that directory; it cannot ask for a directory. -/
theorem target_join {dir : Location} {p : Path} {nm : String}
    (henter : d.enter dir.start dir.names = .ok p) (hne : nm.toList ≠ []) (hslash : '/' ∉ nm.toList)
    (hdot : nm ≠ ".") (hdotdot : nm ≠ "..") :
    d.target (dir.join nm) = .ok (.entry p nm) ∧ (dir.join nm).mustBeDir = false := by
  have hnames : (dir.join nm).names = dir.names ++ [nm] := textNames_joinText dir.text nm hne hslash
  have hstart : (dir.join nm).start = dir.start := by
    simp only [Location.start, Location.join, isAbsoluteText_joinText dir.text nm hne hslash]
  refine ⟨?_, endsWith_joinText dir.text nm hne hslash⟩
  unfold target
  rw [hnames, List.getLast?_concat, hstart, List.dropLast_concat, henter]
  simp [bind, Except.bind, hdot, hdotdot]
  rfl

/-- A location that looks up a file names the file at the path it answers. -/
theorem get?_of_lookup {l : Location} {x : Path} {content : String}
    (h : d.lookup l = .ok (x, .file content)) : d.get? x = some (.file content) := by
  cases ht : d.target l with
  | error e =>
      simp only [lookup, ht, bind, Except.bind] at h
      cases h
  | ok t =>
      simp only [lookup, ht, bind, Except.bind, pure, Except.pure] at h
      cases t with
      | dir p => cases h
      | entry parent n =>
          dsimp only at h
          split at h
          · cases h
          · next c hget =>
              split at h
              · cases h
              · cases h
                exact hget
          · cases h

/-- A rename that succeeds moves the file the source names to where the destination leads; every
other path holds what it held once the source is taken away. -/
theorem lookup_rename {src dst : Location} {x : Path} {content : String}
    (hsrc : d.lookup src = .ok (x, .file content)) (h : d.rename src dst = .ok d') :
    ∃ z, d'.lookup dst = .ok (z, .file content) ∧ ∀ y, y ≠ z → d'.get? y = (d.erase x).get? y := by
  obtain ⟨srcPath, e, parent, n, hsrc', hdst, hnotdir, hmust, rfl⟩ := rename_ok h
  rw [hsrc] at hsrc'
  obtain ⟨rfl, rfl⟩ := Prod.mk.inj (Except.ok.inj hsrc')
  -- the move takes away a file and writes over a name that is no directory, so every
  -- directory on the way to the destination is still there
  have hdirs : ∀ q, d.get? q = some .dir →
      ((d.erase x).put (parent ++ [n]) (.file content)).get? q = some .dir := by
    intro q hq
    have hq1 : parent ++ [n] ≠ q := fun he => hnotdir (he ▸ hq)
    have hq2 : x ≠ q := by
      intro he
      rw [← he, get?_of_lookup hsrc] at hq
      cases hq
    rw [get?_put_of_ne _ _ hq1, get?_erase_of_ne _ hq2]
    exact hq
  refine ⟨parent ++ [n],
    (read_of_target (target_of_dirs hdirs hdst) (get?_put_self _ _ (by simp)) hmust).1,
    fun y hy => get?_put_of_ne _ _ (Ne.symm hy)⟩

end Disk

/-! ## The store -/

namespace Store

/-- The names of the staging series hold no slash, and are neither empty nor `.` nor `..`. -/
theorem tempName_facts (k : Nat) :
    (Disk.seriesName tempPrefix tempSuffix k).toList ≠ [] ∧
      '/' ∉ (Disk.seriesName tempPrefix tempSuffix k).toList ∧
      Disk.seriesName tempPrefix tempSuffix k ≠ "." ∧ Disk.seriesName tempPrefix tempSuffix k ≠ ".." := by
  have hdigits : '/' ∉ k.repr.toList := by
    rw [Nat.toList_repr]
    intro h
    exact absurd (Nat.isDigit_of_mem_toDigits (by decide) (by decide) h) (by decide)
  have htext : (Disk.seriesName tempPrefix tempSuffix k).toList =
      '.' :: 'v' :: ('e' :: 'c' :: 't' :: 'o' :: 'r' :: '-' :: (List.replicate (6 - k.repr.length) '0' ++
        k.repr.toList ++ ['.', 't', 'm', 'p'])) := by
    simp [Disk.seriesName, tempPrefix, tempSuffix]
  refine ⟨by simp [htext], ?_, ?_, ?_⟩
  · rw [htext]
    simp only [List.mem_cons, List.mem_append, List.mem_replicate, List.not_mem_nil]
    intro h
    rcases h with h | h | h | h | h | h | h | h | ((⟨-, h⟩ | h) | h | h | h | h | h)
    all_goals first
      | exact absurd h (by decide)
      | exact hdigits h
  · intro h
    have := congrArg String.toList h
    rw [htext] at this
    simp at this
  · intro h
    have := congrArg String.toList h
    rw [htext] at this
    simp at this

/-- A file of the staging series in the staging directory is what the staged location of its
name looks up, on any disk that keeps the directories of the one the directory was found on. -/
theorem lookup_staged {s : Store} {d d' : Disk} {q : Path} {k : Nat} {content : String}
    (henter : d.enter s.staging.start s.staging.names = .ok q)
    (hdirs : ∀ y, d.get? y = some .dir → d'.get? y = some .dir)
    (hget : d'.get? (q ++ [Disk.seriesName tempPrefix tempSuffix k]) = some (.file content)) :
    d'.lookup (s.staging.join (Disk.seriesName tempPrefix tempSuffix k)) =
      .ok (q ++ [Disk.seriesName tempPrefix tempSuffix k], .file content) := by
  obtain ⟨hne, hslash, hdot, hdotdot⟩ := tempName_facts k
  obtain ⟨htarget, hmust⟩ := Disk.target_join (Disk.enter_of_dirs hdirs henter) hne hslash hdot hdotdot
  exact (Disk.read_of_target htarget hget hmust).1

/-- The empty file that staging makes, at a free path of the staging directory, is what the staged
location of its name looks up. -/
theorem lookup_staged_empty {s : Store} {d : Disk} {q : Path} {k : Nat}
    (henter : d.enter s.staging.start s.staging.names = .ok q)
    (hfree : d.get? (q ++ [Disk.seriesName tempPrefix tempSuffix k]) = none) :
    (d.put (q ++ [Disk.seriesName tempPrefix tempSuffix k]) (.file "")).lookup
        (s.staging.join (Disk.seriesName tempPrefix tempSuffix k)) =
      .ok (q ++ [Disk.seriesName tempPrefix tempSuffix k], .file "") :=
  lookup_staged henter (d.dirs_put_of_free hfree _) (Disk.get?_put_self _ _ (by simp))

/-- Everything a staging can do. It fails to make the staging file, with the disk as it was; or
it makes an empty file, under a name of the staging series that was free in the staging
directory, and then either fails to write the record's text there and takes the file away, or,
on a device with room for the text besides what its files hold, writes it and gives the staged
vector, meant for the final location of the record's index. -/
theorem stage_cases (s : Store) (d : Disk) (r : Record) :
    (∃ e, s.stage d r = (.error (.createTemp s.dir (s.staging.join tempGuess) e), d)) ∨
    ∃ q name, (∃ k, name = Disk.seriesName tempPrefix tempSuffix k) ∧
      d.enter s.staging.start s.staging.names = .ok q ∧ d.get? (q ++ [name]) = none ∧
      ((∃ e, s.stage d r = (.error (.writeTemp (s.staging.join name) e),
          (d.put (q ++ [name]) (.file "")).removeFile (s.staging.join name))) ∨
        d.fits (d.used + r.render.utf8ByteSize) = true ∧
        s.stage d r = (.ok ⟨s.staging.join name, s.pathFor r.index⟩,
          (d.put (q ++ [name]) (.file "")).put (q ++ [name]) (.file r.render))) := by
  unfold stage
  split
  · next e hfresh => exact .inl ⟨e, rfl⟩
  · next name d0 hfresh =>
      obtain ⟨q, k, henter, rfl, hfree, rfl⟩ := Disk.createFresh_ok hfresh
      refine .inr ⟨q, _, ⟨k, rfl⟩, henter, hfree, ?_⟩
      dsimp only
      split
      · next e hwrite => exact .inl ⟨e, rfl⟩
      · next d1 hwrite =>
          -- the write goes to the empty file just made, which the staged location looks up
          obtain ⟨p, old, hlookup, hfits, rfl⟩ := Disk.write_ok hwrite
          rw [lookup_staged_empty henter hfree] at hlookup
          cases hlookup
          -- the empty file took no room
          rw [Disk.used_put_of_free hfree] at hfits
          simp only [Entry.size, String.utf8ByteSize_empty, Nat.zero_add, Nat.sub_zero] at hfits
          exact .inr ⟨hfits, rfl⟩

/-- A staging that succeeds puts the record's text in a new file at a free path whose last name
is of the staging series, and the staged location looks that file up. -/
theorem stage_lookup {s : Store} {d d1 : Disk} {r : Record} {st : Staged}
    (h : s.stage d r = (.ok st, d1)) :
    ∃ q k, d.get? (q ++ [Disk.seriesName tempPrefix tempSuffix k]) = none ∧
      (∀ y, d1.get? y = (d.put (q ++ [Disk.seriesName tempPrefix tempSuffix k]) (.file r.render)).get? y) ∧
      d1.lookup st.temp = .ok (q ++ [Disk.seriesName tempPrefix tempSuffix k], .file r.render) ∧
      st.final = s.pathFor r.index := by
  rcases stage_cases s d r with ⟨e, he⟩ | ⟨q, _, ⟨k, rfl⟩, henter, hfree, ⟨e, he⟩ | ⟨-, he⟩⟩ <;>
    rw [he] at h
  · cases h
  · cases h
  · cases h
    -- the text written over the empty file hides it
    have hagree := Disk.get?_put_put d (q ++ [Disk.seriesName tempPrefix tempSuffix k]) (.file "")
      (.file r.render)
    refine ⟨q, k, hfree, hagree, ?_, rfl⟩
    exact lookup_staged henter (Disk.dirs_of_agree_put hfree hagree)
      (by rw [hagree]; exact Disk.get?_put_self _ _ (by simp))

/-- A commit that succeeds is the rename of the staged file over its final name. -/
theorem commit_ok {st : Staged} {d d' d'' : Disk} {l : Location}
    (h : commit st d = (.ok (l, d'), d'')) :
    d.rename st.temp st.final = .ok d'' ∧ l = st.final := by
  unfold commit at h
  split at h
  · next d2 hrename =>
      obtain ⟨hres, rfl⟩ := Prod.mk.inj h
      obtain ⟨rfl, -⟩ := Prod.mk.inj (Except.ok.inj hres)
      exact ⟨hrename, rfl⟩
  · cases h

/-- A `persist` that succeeds staged the record and renamed the staged file over its final
name, which it answers. -/
theorem persist_ok {s : Store} {d d' : Disk} {r : Record} {l : Location}
    (h : s.persist d r = (.ok l, d')) :
    ∃ st d1, s.stage d r = (.ok st, d1) ∧ d1.rename st.temp st.final = .ok d' ∧ l = st.final := by
  unfold persist at h
  split at h
  · cases h
  · next st d1 hstage =>
      split at h
      · next l' x d2 hcommit =>
          obtain ⟨hres, rfl⟩ := Prod.mk.inj h
          cases hres
          exact ⟨st, d1, hstage, commit_ok hcommit⟩
      · cases h

/-- After a `persist` that succeeds, the location it answered holds the record's text. -/
theorem read_persist {s : Store} {d d' : Disk} {r : Record} {l : Location}
    (h : s.persist d r = (.ok l, d')) : d'.read l = .ok r.render := by
  obtain ⟨st, d1, hstage, hrename, rfl⟩ := persist_ok h
  obtain ⟨y, k, -, -, hlookup, -⟩ := stage_lookup hstage
  -- the rename moves the staged file, with the record's text, to where the final name leads
  obtain ⟨z, hz, -⟩ := Disk.lookup_rename hlookup hrename
  simp only [Disk.read, Disk.stat, hz]
  rfl

/-- After a `persist` that succeeds, loading the location it answered reads back whatever the
record's text reads as. -/
theorem load_persist {s : Store} {d d' : Disk} {r : Record} {l : Location} {v : TestVector}
    (h : s.persist d r = (.ok l, d')) (hv : TestVector.parse r.render = .ok v) :
    load d' l = .ok v := by
  simp only [load, read_persist h, hv]

end Store

/-! ## The round trip of a record's text -/

/-- **Vector text round trip.** A record whose names are plain reads back from its text as
exactly its fields: the vector counts the record's bytes and replays them in order, and
`load` gives the same vector back from wherever `persist` put it. Conversely every vector
that reading produces has plain names, so the text of any record with its fields reads back
as that vector: rendering is a canonical form of what reading accepts. -/
theorem Record.render_round_trip (r : Record) (tallied : r.Tallied)
    (plain : ∀ f ∈ r.fields.toList, TestVector.isPlainName f.name = true) :
    TestVector.parse r.render = .ok ⟨r.fields.toList⟩ ∧
    TestVector.byteCount ⟨r.fields.toList⟩ = r.byteCount ∧
    (∀ n, (TestVector.replaySource ⟨r.fields.toList⟩).take n =
      if n ≤ (r.fields.toList.flatMap (·.bytes)).length then
        (some ((r.fields.toList.flatMap (·.bytes)).take n),
          .replay ((r.fields.toList.flatMap (·.bytes)).drop n))
      else (none, .replay [])) ∧
    (∀ (s : Store) (d d' : Disk) (l : Location), s.persist d r = (.ok l, d') →
      Store.load d' l = .ok ⟨r.fields.toList⟩) ∧
    (∀ (text : String) (v : TestVector), TestVector.parse text = .ok v →
      (∀ f ∈ v.fields, TestVector.isPlainName f.name = true) ∧
      ∀ r' : Record, r'.fields.toList = v.fields → TestVector.parse r'.render = .ok v) := by
  have hparse : TestVector.parse r.render = .ok ⟨r.fields.toList⟩ :=
    TestVector.parse_renderFields _ plain
  refine ⟨hparse, ?_, fun n => Source.take_replay _ n, ?_, ?_⟩
  · rw [TestVector.byteCount_eq_sum, tallied]
  · intro s d d' l h
    exact Store.load_persist h hparse
  · intro text v h
    have hplain := TestVector.plain_of_parse h
    refine ⟨hplain, fun r' hr' => ?_⟩
    rw [Record.render, hr']
    exact TestVector.parse_renderFields v.fields hplain

/-- The round trip at a record with a name holding a colon and an empty field. -/
theorem Record.render_round_trip_colon_and_empty :
    let r := ((Record.new 0).push ⟨"a:b", [1, 255]⟩).push ⟨"e", []⟩
    r.Tallied ∧ (∀ f ∈ r.fields.toList, TestVector.isPlainName f.name = true) ∧
      TestVector.parse r.render = .ok ⟨r.fields.toList⟩ := by
  intro r
  have htallied : r.Tallied := ((Record.tallied_new 0).push _).push _
  have hplain : ∀ f ∈ r.fields.toList, TestVector.isPlainName f.name = true := by decide
  exact ⟨htallied, hplain, (Record.render_round_trip r htallied hplain).1⟩

end VectorCapture
