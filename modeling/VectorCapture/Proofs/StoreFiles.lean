import VectorCapture.Proofs.StoreRoundTrip

/-! # The files of a store

    A store holds its vectors under final names `vector`, at least eight digits, `.test`, and
    stages each under a hidden name first. This module says what writing a vector does to the
    whole disk, and what listing the store then gives:

    * names: the final names of distinct indices differ, have the final form, `vector`, one or
      more ASCII digits, `.test`, which is what listing looks for (`Store.isVectorName_iff`), and
      are never staging names (`Store.fileName_injective`, `Store.isFinalName_fileName`,
      `Store.fileName_ne_tempName`);
    * the disk: a location that looks up a directory is walked there through all its names
      (`Disk.enter_of_lookup`), and listing it gives exactly the entries one name below it, each
      name once (`Disk.mem_listDir`, `Disk.nodup_listDir`);
    * writing: a staging that fails leaves every path as it was (`Store.stage_error`); a
      `persist` that succeeds writes the record's text under the final name of its index and
      leaves every other path as it was, the staged file included; one that fails leaves every
      path as it was (`Store.persist_ok_get?`, `Store.persist_error_get?`);
    * listing: the store lists the files one name below its directory whose names have the
      final form, each once and in increasing order of names (`Store.list_sorted`,
      `Store.mem_list`). -/

namespace VectorCapture

theorem Location.names_root : Location.root.names = [] := by
  simp only [Location.names, Location.root, textNames_eq]
  decide

theorem Location.isAbsoluteText_root : isAbsoluteText Location.root.text = true := by
  rw [isAbsoluteText_iff]
  decide

namespace Disk

/-! ## Walking and listing the disk -/

variable {d d' : Disk}

theorem get?_erase_self {p : Path} (h : p ≠ []) : (d.erase p).get? p = none := by
  simp [get?, erase, h]

/-- A disk that agrees at every path with one where an entry was put at a free path, once that
path is taken away, agrees with the disk before. -/
theorem get?_erase_of_agree {x : Path} {e : Entry} (hfree : d.get? x = none)
    (hagree : ∀ y, d'.get? y = (d.put x e).get? y) (y : Path) : (d'.erase x).get? y = d.get? y := by
  by_cases hy : x = y
  · subst hy
    -- the root is always there, so a free path is not the root
    have hx : x ≠ [] := fun h => by simp [get?, h] at hfree
    rw [get?_erase_self hx, hfree]
  · rw [get?_erase_of_ne _ hy, hagree, get?_put_of_ne _ _ hy]

/-- A file put at a free path and taken away again leaves every path as it was. -/
theorem get?_erase_put_of_free {x : Path} (hfree : d.get? x = none) (e : Entry) (y : Path) :
    ((d.put x e).erase x).get? y = d.get? y :=
  get?_erase_of_agree hfree (fun _ => rfl) y

theorem removeFile_of_lookup {l : Location} {x : Path} {content : String}
    (h : d.lookup l = .ok (x, .file content)) : d.removeFile l = d.erase x := by
  simp [removeFile, h]

/-- Walking through names one more is walking through the others, then through the last. -/
theorem enter_concat (cur : Path) (ns : List String) (n : String) :
    d.enter cur (ns ++ [n]) = (d.enter cur ns).bind (fun q => d.enter q [n]) := by
  induction ns generalizing cur with
  | nil => rfl
  | cons m rest ih =>
      rw [List.cons_append, enter, enter]
      split
      · exact ih cur
      · split
        · exact ih cur.dropLast
        · split
          · exact ih (cur ++ [m])
          · rfl
          · rfl

/-- What a lookup comes to before its last name: the root, for a text of slashes alone; or the
directory the names before the last lead to, and then that directory itself for `.`, its parent
for `..`, or the entry of the last name inside it. -/
theorem target_eq_ok {l : Location} {t : Target} (ht : d.target l = .ok t) :
    (l.names = [] ∧ isAbsoluteText l.text = true ∧ t = .dir []) ∨
    ∃ last parent, l.names = l.names.dropLast ++ [last] ∧
      d.enter l.start l.names.dropLast = .ok parent ∧
      ((last = "." ∧ t = .dir parent) ∨ (last = ".." ∧ t = .dir parent.dropLast) ∨
        (last ≠ "." ∧ last ≠ ".." ∧ t = .entry parent last)) := by
  unfold target at ht
  split at ht
  · next hlast =>
      refine .inl ⟨List.getLast?_eq_none_iff.mp hlast, ?_⟩
      by_cases habs : isAbsoluteText l.text = true
      · rw [if_pos habs] at ht
        cases ht
        exact ⟨habs, rfl⟩
      · rw [if_neg habs] at ht
        cases ht
  · next last hlast =>
      have hsplit : l.names = l.names.dropLast ++ [last] :=
        (List.dropLast_append_getLast? last hlast).symm
      cases he : d.enter l.start l.names.dropLast with
      | error e =>
          simp only [he, bind, Except.bind] at ht
          cases ht
      | ok parent =>
          refine .inr ⟨last, parent, hsplit, rfl, ?_⟩
          simp only [he, bind, Except.bind, pure, Except.pure] at ht
          by_cases hdot : last = "."
          · rw [if_pos (by simpa using hdot)] at ht
            cases ht
            exact .inl ⟨hdot, rfl⟩
          · rw [if_neg (by simpa using hdot)] at ht
            by_cases hdotdot : last = ".."
            · rw [if_pos (by simpa using hdotdot)] at ht
              cases ht
              exact .inr (.inl ⟨hdotdot, rfl⟩)
            · rw [if_neg (by simpa using hdotdot)] at ht
              cases ht
              exact .inr (.inr ⟨hdot, hdotdot, rfl⟩)

/-- A location that looks up a directory is walked to that directory through all its names. -/
theorem enter_of_lookup {l : Location} {p : Path} (h : d.lookup l = .ok (p, .dir)) :
    d.enter l.start l.names = .ok p := by
  cases ht : d.target l with
  | error e =>
      simp only [lookup, ht, bind, Except.bind] at h
      cases h
  | ok t =>
      rcases target_eq_ok ht with ⟨hnil, habs, rfl⟩ | ⟨last, parent, hsplit, hparent, hcase⟩
      · simp only [lookup, ht, bind, Except.bind, pure, Except.pure] at h
        cases h
        rw [hnil, enter, Location.start, if_pos habs]
      · rw [hsplit, enter_concat, hparent]
        rcases hcase with ⟨rfl, rfl⟩ | ⟨rfl, rfl⟩ | ⟨hdot, hdotdot, rfl⟩
        · simp only [lookup, ht, bind, Except.bind, pure, Except.pure] at h
          cases h
          rfl
        · simp only [lookup, ht, bind, Except.bind, pure, Except.pure] at h
          cases h
          rfl
        · -- the last name is a directory inside the parent
          simp only [lookup, ht, bind, Except.bind, pure, Except.pure] at h
          split at h
          · cases h
          · split at h <;> cases h
          · next hdir =>
              cases h
              simp [enter, hdot, hdotdot, Except.bind, hdir]

/-- Looking up a directory only needs the directories on the way: on a disk that keeps every
directory it finds the same one. -/
theorem lookup_of_dirs (hdirs : ∀ q, d.get? q = some .dir → d'.get? q = some .dir)
    {l : Location} {p : Path} (h : d.lookup l = .ok (p, .dir)) : d'.lookup l = .ok (p, .dir) := by
  cases ht : d.target l with
  | error e =>
      simp only [lookup, ht, bind, Except.bind] at h
      cases h
  | ok t =>
      have ht' := target_of_dirs hdirs ht
      simp only [lookup, ht, bind, Except.bind, pure, Except.pure] at h
      simp only [lookup, ht', bind, Except.bind, pure, Except.pure]
      cases t with
      | dir q => exact h
      | entry parent n =>
          dsimp only at h ⊢
          split at h
          · cases h
          · split at h <;> cases h
          · next hdir =>
              rw [hdirs _ hdir]
              exact h

/-- A path is one name below `p` exactly when `p` is all of it but its last name. -/
theorem eq_concat_iff {q p : Path} {n : String} :
    q = p ++ [n] ↔ q.getLast? = some n ∧ q.dropLast = p := by
  constructor
  · rintro rfl
    simp
  · rintro ⟨hlast, rfl⟩
    exact (List.dropLast_append_getLast? n hlast).symm

/-- Folding the entries of a disk into those one name below `p` keeps exactly those. -/
theorem mem_foldl_children (p : Path) (n : String) (e : Entry) :
    ∀ (l : List (Path × Entry)) (acc : List (String × Entry)),
      (n, e) ∈ l.foldl (fun acc b => match b.1.getLast? with
        | some m => if b.1.dropLast == p then (m, b.2) :: acc else acc
        | none => acc) acc ↔ (n, e) ∈ acc ∨ (p ++ [n], e) ∈ l
  | [], acc => by simp
  | (q, e') :: rest, acc => by
      rw [List.foldl_cons, mem_foldl_children p n e rest, List.mem_cons, Prod.mk.injEq,
        @eq_comm _ (p ++ [n]), eq_concat_iff, @eq_comm _ e]
      dsimp only
      cases hlast : q.getLast? with
      | none => simp
      | some m =>
          by_cases hp : q.dropLast = p
          · simp only [hp, beq_self_eq_true, if_true, List.mem_cons, Prod.mk.injEq,
              Option.some.injEq, and_true]
            constructor
            · rintro ((⟨rfl, rfl⟩ | hacc) | hrest)
              · exact .inr (.inl ⟨rfl, rfl⟩)
              · exact .inl hacc
              · exact .inr (.inr hrest)
            · rintro (hacc | ⟨rfl, rfl⟩ | hrest)
              · exact .inl (.inr hacc)
              · exact .inl (.inl ⟨rfl, rfl⟩)
              · exact .inr hrest
          · simp [hp]

/-- The entries listed in a directory are exactly the entries one name below it. -/
theorem mem_listDir {l : Location} {p : Path} (h : d.lookup l = .ok (p, .dir)) :
    ∃ es, d.listDir l = .ok es ∧ ∀ n e, (n, e) ∈ es ↔ d.get? (p ++ [n]) = some e := by
  refine ⟨_, by simp only [listDir, h, bind, Except.bind, pure, Except.pure]; rfl, fun n e => ?_⟩
  rw [Std.HashMap.fold_eq_foldl_toList]
  refine (mem_foldl_children p n e _ []).trans ?_
  rw [Std.HashMap.mem_toList_iff_getElem?_eq_some]
  simp [get?]

/-- The root looks up as the root directory. -/
theorem lookup_root (d : Disk) : d.lookup Location.root = .ok ([], .dir) := by
  simp [lookup, target, Location.names_root, Location.isAbsoluteText_root, bind, Except.bind,
    pure, Except.pure]

/-- A directory that can be listed looks up as a directory. -/
theorem lookup_of_listDir {l : Location} {es : List (String × Entry)} (h : d.listDir l = .ok es) :
    ∃ p, d.lookup l = .ok (p, .dir) := by
  unfold listDir at h
  cases hl : d.lookup l with
  | error e =>
      rw [hl] at h
      cases h
  | ok found =>
      obtain ⟨p, e⟩ := found
      cases e with
      | dir => exact ⟨p, rfl⟩
      | file content =>
          simp only [hl, bind, Except.bind] at h
          cases h

/-- Folding entries with distinct paths into those one name below `p` adds each name once, and
none that the accumulator holds. -/
theorem nodup_foldl_children (p : Path) :
    ∀ (l : List (Path × Entry)) (acc : List (String × Entry)),
      l.Pairwise (fun a b => a.1 ≠ b.1) → (acc.map Prod.fst).Nodup →
      (∀ n ∈ acc.map Prod.fst, ∀ b ∈ l, b.1 ≠ p ++ [n]) →
      ((l.foldl (fun acc b => match b.1.getLast? with
        | some m => if b.1.dropLast == p then (m, b.2) :: acc else acc
        | none => acc) acc).map Prod.fst).Nodup
  | [], acc, _, hacc, _ => hacc
  | (q, e) :: rest, acc, hl, hacc, hfresh => by
      rw [List.pairwise_cons] at hl
      have hfresh' : ∀ n ∈ acc.map Prod.fst, ∀ b ∈ rest, b.1 ≠ p ++ [n] :=
        fun n hn b hb => hfresh n hn b (List.mem_cons_of_mem _ hb)
      rw [List.foldl_cons]
      dsimp only
      cases hlast : q.getLast? with
      | none => exact nodup_foldl_children p rest acc hl.2 hacc hfresh'
      | some m =>
          by_cases hp : q.dropLast = p
          · -- a child: its name is new, and no later entry is the same child
            have hq : q = p ++ [m] := eq_concat_iff.mpr ⟨hlast, hp⟩
            simp only [hp, beq_self_eq_true, if_true]
            refine nodup_foldl_children p rest _ hl.2 ?_ ?_
            · refine List.nodup_cons.mpr ⟨fun hm => ?_, hacc⟩
              exact hfresh m hm (q, e) List.mem_cons_self hq
            · intro n hn b hb
              rw [List.map_cons, List.mem_cons] at hn
              rcases hn with rfl | hn
              · exact hq ▸ (hl.1 b hb).symm
              · exact hfresh' n hn b hb
          · dsimp only
            rw [if_neg (by simpa using hp)]
            exact nodup_foldl_children p rest acc hl.2 hacc hfresh'

/-- A directory lists each name once. -/
theorem nodup_listDir {d : Disk} {l : Location} {es : List (String × Entry)}
    (h : d.listDir l = .ok es) : (es.map Prod.fst).Nodup := by
  obtain ⟨p, hp⟩ := lookup_of_listDir h
  simp only [listDir, hp, bind, Except.bind, pure, Except.pure] at h
  cases h
  rw [Std.HashMap.fold_eq_foldl_toList]
  refine nodup_foldl_children p _ [] ?_ List.nodup_nil (by simp)
  exact Std.HashMap.distinct_keys_toList.imp fun hab habs => by simp [habs] at hab

end Disk

namespace Store

/-! ## Final names -/

theorem toList_indexDigits (k : Nat) :
    (indexDigits k).toList = List.replicate (8 - (Nat.toDigits 10 k).length) '0' ++ Nat.toDigits 10 k := by
  have hlen : k.repr.length = (Nat.toDigits 10 k).length := by
    rw [← String.length_toList, Nat.toList_repr]
  simp [indexDigits, Nat.toString_eq_repr, Nat.toList_repr, hlen]

/-- The digits of an index read back as a number give the index: leading zeros count for
nothing. -/
theorem ofDigitChars_indexDigits (k : Nat) : Nat.ofDigitChars 10 (indexDigits k).toList 0 = k := by
  rw [toList_indexDigits, Nat.ofDigitChars_append, Nat.ofDigitChars_replicate_zero, Nat.mul_zero,
    Nat.ofDigitChars_ten_toDigits]

theorem toList_fileName (k : Nat) :
    (fileName k).toList = "vector".toList ++ (indexDigits k).toList ++ ".test".toList := by
  simp [fileName]

/-- Distinct indices have distinct final names, so no vector is written over another. -/
theorem fileName_injective {i j : Nat} (h : fileName i = fileName j) : i = j := by
  have hdigits : (indexDigits i).toList = (indexDigits j).toList := by
    have hlist := congrArg String.toList h
    rw [toList_fileName, toList_fileName, List.append_assoc, List.append_assoc] at hlist
    exact List.append_cancel_right (List.append_cancel_left hlist)
  calc
    i = Nat.ofDigitChars 10 (indexDigits i).toList 0 := (ofDigitChars_indexDigits i).symm
    _ = Nat.ofDigitChars 10 (indexDigits j).toList 0 := by rw [hdigits]
    _ = j := ofDigitChars_indexDigits j

theorem isDigit_of_mem_indexDigits {k : Nat} {c : Char} (hc : c ∈ (indexDigits k).toList) :
    c.isDigit = true := by
  rw [toList_indexDigits, List.mem_append, List.mem_replicate] at hc
  rcases hc with ⟨-, rfl⟩ | hc
  · decide
  · exact Nat.isDigit_of_mem_toDigits (by decide) (by decide) hc

theorem indexDigits_ne_nil (k : Nat) : (indexDigits k).toList ≠ [] := by
  rw [toList_indexDigits]
  simp [Nat.toDigits_ne_nil]

/-- The form of a vector's final name: `vector`, one or more ASCII digits, then `.test`. -/
def IsFinalName (n : String) : Prop :=
  ∃ digits : List Char, digits ≠ [] ∧ (∀ c ∈ digits, c.isDigit = true) ∧
    n.toList = "vector".toList ++ digits ++ ".test".toList

/-- The listing's test accepts exactly the names of the final form. -/
theorem isVectorName_iff (n : String) : isVectorName n = true ↔ IsFinalName n := by
  unfold isVectorName
  simp only [Bool.and_eq_true, decide_eq_true_eq, beq_iff_eq, List.all_eq_true]
  constructor
  · rintro ⟨⟨⟨hlong, hhead⟩, htail⟩, hdigits⟩
    -- the digits are what lies between the first six characters and the last five
    have hmid : n.toList.drop 6 =
        (n.toList.drop 6).take (n.toList.length - 11) ++ n.toList.drop (n.toList.length - 5) := by
      conv => lhs; rw [← List.take_append_drop (n.toList.length - 11) (n.toList.drop 6)]
      rw [List.drop_drop]
      congr 2
      omega
    have hlen : ((n.toList.drop 6).take (n.toList.length - 11)).length = n.toList.length - 11 := by
      simp only [List.length_take, List.length_drop]
      omega
    generalize (n.toList.drop 6).take (n.toList.length - 11) = ds at hdigits hmid hlen
    refine ⟨ds, ?_, hdigits, ?_⟩
    · rw [← List.length_pos_iff, hlen]
      omega
    · calc n.toList = n.toList.take 6 ++ n.toList.drop 6 := (List.take_append_drop 6 _).symm
        _ = "vector".toList ++ ds ++ ".test".toList := by
          rw [hhead, hmid, htail, List.append_assoc]
  · rintro ⟨ds, hne, hdigits, hn⟩
    have hlen : 0 < ds.length := List.length_pos_iff.mpr hne
    rw [hn]
    simp only [List.length_append]
    refine ⟨⟨⟨by simp; omega, ?_⟩, ?_⟩, ?_⟩
    · rw [List.append_assoc, List.take_left' (by rfl)]
    · rw [show "vector".toList.length + ds.length + ".test".toList.length - 5 =
        ("vector".toList ++ ds).length by simp; omega, List.drop_left]
    · intro c hc
      rw [List.append_assoc, List.drop_left' (by rfl),
        show "vector".toList.length + ds.length + ".test".toList.length - 11 = ds.length by simp,
        List.take_left] at hc
      exact hdigits c hc

/-- The final name of every index has the final form. -/
theorem isFinalName_fileName (k : Nat) : IsFinalName (fileName k) :=
  ⟨_, indexDigits_ne_nil k, fun _ hc => isDigit_of_mem_indexDigits hc, toList_fileName k⟩

/-- Every final name has the form that listing the store looks for. -/
theorem isVectorName_fileName (k : Nat) : isVectorName (fileName k) = true :=
  (isVectorName_iff _).mpr (isFinalName_fileName k)

theorem head?_fileName (k : Nat) : (fileName k).toList.head? = some 'v' := by
  rw [toList_fileName]
  rfl

theorem head?_tempName (k : Nat) :
    (Disk.seriesName tempPrefix tempSuffix k).toList.head? = some '.' := by
  simp [Disk.seriesName, tempPrefix]

/-- A final name is never a staging name. -/
theorem fileName_ne_tempName (k k' : Nat) :
    fileName k ≠ Disk.seriesName tempPrefix tempSuffix k' := by
  intro h
  have hhead := head?_fileName k
  rw [h, head?_tempName] at hhead
  cases hhead

/-- The final names hold no slash, and are neither empty nor `.` nor `..`. -/
theorem fileName_facts (k : Nat) :
    (fileName k).toList ≠ [] ∧ '/' ∉ (fileName k).toList ∧ fileName k ≠ "." ∧ fileName k ≠ ".." := by
  have hhead := head?_fileName k
  refine ⟨?_, ?_, ?_, ?_⟩
  · intro h
    rw [h] at hhead
    cases hhead
  · rw [toList_fileName]
    intro h
    rcases List.mem_append.mp h with h | h
    · rcases List.mem_append.mp h with h | h
      · exact absurd h (by decide)
      · exact absurd (isDigit_of_mem_indexDigits h) (by decide)
    · exact absurd h (by decide)
  · intro h
    rw [h] at hhead
    cases hhead
  · intro h
    rw [h] at hhead
    cases hhead

/-! ## Writing a vector -/

/-- A commit that fails takes the staged file away. -/
theorem commit_error {st : Staged} {d d' : Disk} {e : StoreError}
    (h : commit st d = (.error e, d')) : d' = d.removeFile st.temp := by
  unfold commit at h
  split at h
  · cases h
  · exact (Prod.mk.inj h).2.symm

/-- A staging that fails, to make the staging file or to write the record's text in it, leaves
every path as it was: a staging file it made is taken away again. -/
theorem stage_error {s : Store} {d d1 : Disk} {r : Record} {e : StoreError}
    (h : s.stage d r = (.error e, d1)) :
    ((∃ oe, e = .createTemp s.dir (s.staging.join tempGuess) oe) ∨
      ∃ k oe, e = .writeTemp (s.staging.join (Disk.seriesName tempPrefix tempSuffix k)) oe) ∧
    ∀ y, d1.get? y = d.get? y := by
  rcases stage_cases s d r with ⟨oe, he⟩ | ⟨q, _, ⟨k, rfl⟩, henter, hfree, ⟨oe, he⟩ | ⟨-, he⟩⟩ <;>
    rw [he] at h
  · cases h
    exact ⟨.inl ⟨oe, rfl⟩, fun _ => rfl⟩
  · cases h
    -- the write failed on the empty file just made, which the staged location still looks up
    refine ⟨.inr ⟨k, oe, rfl⟩, fun y => ?_⟩
    rw [Disk.removeFile_of_lookup (lookup_staged_empty henter hfree),
      Disk.get?_erase_put_of_free hfree]
  · cases h

/-- A `persist` that fails leaves every path of the disk as it was: a staged file it made is
taken away again. -/
theorem persist_error_get? {s : Store} {d d' : Disk} {r : Record} {e : StoreError}
    (h : s.persist d r = (.error e, d')) (x : Path) : d'.get? x = d.get? x := by
  unfold persist at h
  split at h
  · next e' d1 hstage =>
      cases h
      exact (stage_error hstage).2 x
  · next st d1 hstage =>
      obtain ⟨y, k, hfree, hagree, hlookup, -⟩ := stage_lookup hstage
      split at h
      · cases h
      · next e' d2 hcommit =>
          cases h
          rw [commit_error hcommit, Disk.removeFile_of_lookup hlookup,
            Disk.get?_erase_of_agree hfree hagree]

/-- Two paths whose last names differ are different. -/
theorem concat_ne_concat {p q : Path} {a b : String} (h : a ≠ b) : p ++ [a] ≠ q ++ [b] := by
  intro he
  exact h (by simpa using congrArg List.getLast? he)

/-- A `persist` that succeeds, in a store whose directory the disk walks to `p`, answers the
final location of the record's index, where there was no directory; the final name in `p` then
holds the record's text, and every other path is as it was. -/
theorem persist_ok_get? {s : Store} {d d' : Disk} {r : Record} {l : Location} {p : Path}
    (hp : d.enter s.dir.start s.dir.names = .ok p) (h : s.persist d r = (.ok l, d')) :
    l = s.pathFor r.index ∧ d.get? (p ++ [fileName r.index]) ≠ some .dir ∧
      d'.get? (p ++ [fileName r.index]) = some (.file r.render) ∧
      ∀ x, x ≠ p ++ [fileName r.index] → d'.get? x = d.get? x := by
  obtain ⟨st, d1, hstage, hrename, rfl⟩ := persist_ok h
  obtain ⟨y, k, hfree, hagree, hlookup, hfinal⟩ := stage_lookup hstage
  obtain ⟨srcPath, e, parent, n, hsrc, hdst, hnotdir, -, rfl⟩ := Disk.rename_ok hrename
  rw [hlookup] at hsrc
  obtain ⟨rfl, rfl⟩ := Prod.mk.inj (Except.ok.inj hsrc).symm
  -- the staged file is no final name, so the walk to the store's directory is as before
  have hne : y ++ [Disk.seriesName tempPrefix tempSuffix k] ≠ p ++ [fileName r.index] :=
    concat_ne_concat (fileName_ne_tempName r.index k).symm
  obtain ⟨hne', hslash, hdot, hdotdot⟩ := fileName_facts r.index
  obtain ⟨htarget, -⟩ := Disk.target_join (Disk.enter_of_dirs (Disk.dirs_of_agree_put hfree hagree) hp)
    hne' hslash hdot hdotdot
  rw [hfinal, pathFor, htarget] at hdst
  obtain ⟨rfl, rfl⟩ : p = parent ∧ fileName r.index = n := by
    cases hdst
    exact ⟨rfl, rfl⟩
  rw [hagree, Disk.get?_put_of_ne _ _ hne] at hnotdir
  refine ⟨hfinal, hnotdir, Disk.get?_put_self _ _ (by simp), fun x hx => ?_⟩
  rw [Disk.get?_put_of_ne _ _ (Ne.symm hx), Disk.get?_erase_of_agree hfree hagree]

/-! ## Listing the store -/

/-- Names kept from a directory's entries, each entry giving at most its own name, and sorted, come
each once and in strictly increasing order. -/
theorem pairwise_lt_mergeSort {es : List (String × Entry)} (hnodup : (es.map Prod.fst).Nodup)
    {keep : String × Entry → Option String} (hkeep : ∀ a n, keep a = some n → n = a.1) :
    ((es.filterMap keep).mergeSort fun a b => decide (a ≤ b)).Pairwise (· < ·) := by
  have hle : ((es.filterMap keep).mergeSort fun a b => decide (a ≤ b)).Pairwise
      (fun a b => decide (a ≤ b) = true) :=
    List.pairwise_mergeSort
      (fun a b c hab hbc => by
        simp only [decide_eq_true_eq] at hab hbc ⊢
        exact le_trans hab hbc)
      (fun a b => by
        simp only [Bool.or_eq_true, decide_eq_true_eq]
        exact le_total a b) _
  -- each entry gives its own name, and the names of the entries are distinct
  have hne : (es.filterMap keep).Pairwise (· ≠ ·) := by
    refine (List.pairwise_map.mp (List.nodup_iff_pairwise_ne.mp hnodup)).filterMap keep ?_
    intro a a' hne n hn n' hn'
    rw [hkeep a n hn, hkeep a' n' hn']
    exact hne
  have hne' : ((es.filterMap keep).mergeSort fun a b => decide (a ≤ b)).Pairwise (· ≠ ·) :=
    List.nodup_iff_pairwise_ne.mp
      ((List.mergeSort_perm _ _).nodup_iff.mpr (List.nodup_iff_pairwise_ne.mpr hne))
  exact (hle.and hne').imp fun ⟨hab, hne⟩ => lt_of_le_of_ne (by simpa using hab) hne

/-- A store whose directory is there lists, in strictly increasing order of names, the files
directly in it whose names have the final form. -/
theorem list_sorted {s : Store} {d : Disk} {p : Path} (h : d.lookup s.dir = .ok (p, .dir)) :
    ∃ names : List String, s.list d = .ok (names.map s.dir.join) ∧
      (∀ n, n ∈ names ↔ (∃ content, d.get? (p ++ [n]) = some (.file content)) ∧ IsFinalName n) ∧
      names.Pairwise (· < ·) := by
  obtain ⟨es, hes, hmem⟩ := Disk.mem_listDir h
  rw [list, hes]
  refine ⟨_, rfl, fun n => ?_, pairwise_lt_mergeSort (Disk.nodup_listDir hes) ?_⟩
  · rw [(List.mergeSort_perm _ _).mem_iff, List.mem_filterMap, ← isVectorName_iff]
    constructor
    · rintro ⟨⟨m, e⟩, hm, hsome⟩
      cases e with
      | file content =>
          dsimp only at hsome
          split at hsome
          · next hname =>
              cases hsome
              exact ⟨⟨content, (hmem _ _).mp hm⟩, hname⟩
          · cases hsome
      | dir => cases hsome
    · rintro ⟨⟨content, hget⟩, hname⟩
      exact ⟨⟨n, .file content⟩, (hmem _ _).mpr hget, by simp [hname]⟩
  · -- the listing keeps a file under its own name
    rintro ⟨m, e⟩ n hsome
    cases e with
    | file content =>
        dsimp only at hsome
        split at hsome
        · cases hsome
          rfl
        · cases hsome
    | dir => cases hsome

/-- The vector files listed in a store whose directory looks up as `p` are the files one name
below `p` whose names have the final form. -/
theorem mem_list {s : Store} {d : Disk} {p : Path} (h : d.lookup s.dir = .ok (p, .dir)) :
    ∃ ls, s.list d = .ok ls ∧ ∀ l, l ∈ ls ↔
      ∃ n content, d.get? (p ++ [n]) = some (.file content) ∧ isVectorName n = true ∧
        l = s.dir.join n := by
  obtain ⟨names, hnames, hmem, -⟩ := list_sorted h
  refine ⟨_, hnames, fun l => ?_⟩
  simp only [List.mem_map, hmem, isVectorName_iff]
  constructor
  · rintro ⟨n, ⟨⟨content, hget⟩, hfinal⟩, rfl⟩
    exact ⟨n, content, hget, hfinal, rfl⟩
  · rintro ⟨n, content, hget, hfinal, rfl⟩
    exact ⟨n, ⟨⟨content, hget⟩, hfinal⟩, rfl⟩

/-- A store that can be listed has a directory. -/
theorem lookup_of_list {s : Store} {d : Disk} {ls : List Location} (h : s.list d = .ok ls) :
    ∃ p, d.lookup s.dir = .ok (p, .dir) := by
  unfold list at h
  split at h
  · cases h
  · next es hes => exact Disk.lookup_of_listDir hes

end Store

end VectorCapture
