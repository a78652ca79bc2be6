import VectorCapture.Proofs.StoreFiles

/-! # The order of a store's listing

    Listing a store gives the files directly in its directory whose names have the final form,
    `vector`, one or more ASCII digits, `.test`: no staging file, no directory, no other name.
    They come sorted by name, each once. Names are compared character by character, and the
    final names pad the index to at least eight digits, so the order of names is the order of
    runs for every index below `10^8`: two digit strings of one length compare as the numbers
    they spell. Past eight digits it is not: `vector100000000.test` sorts before
    `vector99999999.test`, since `1` comes before `9`.

    The route:

    * the listing is the sorted names of the final form, each once (`Store.list_sorted`, with
      the form `Store.IsFinalName`, from the files of a store);
    * digit strings of one length compare as their numbers (`lt_of_ofDigitChars_lt`), and the
      digits of an index below `10^8` are eight (`Store.length_indexDigits`), so such final
      names sort in run order (`Store.fileName_lt_fileName`);
    * `Store.list_in_run_order` states the listing, and `Store.list_across_eight_digits` the
      order at `10^8`. -/

namespace VectorCapture

/-! ## Digit strings -/

theorem isDigit_iff {c : Char} : c.isDigit = true ↔ 48 ≤ c.toNat ∧ c.toNat ≤ 57 := by
  simp [Char.isDigit, UInt32.le_iff_toNat_le]

theorem Char.lt_iff_toNat_lt {a b : Char} : a < b ↔ a.toNat < b.toNat := by
  rw [Char.lt_def, UInt32.lt_iff_toNat_lt]
  rfl

/-- A string of digits read from its first digit: that digit's weight, then the rest. -/
theorem ofDigitChars_cons_zero (c : Char) (cs : List Char) :
    Nat.ofDigitChars 10 (c :: cs) 0 = 10 ^ cs.length * (c.toNat - 48) + Nat.ofDigitChars 10 cs 0 := by
  rw [Nat.ofDigitChars_cons, Nat.ofDigitChars_eq_ofDigitChars_zero]
  simp

/-- A string of digits spells a number below ten to the power of its length. -/
theorem ofDigitChars_lt_pow :
    ∀ {cs : List Char}, (∀ c ∈ cs, c.isDigit = true) → Nat.ofDigitChars 10 cs 0 < 10 ^ cs.length
  | [], _ => by simp [Nat.ofDigitChars_nil]
  | c :: cs, h => by
      have hc := isDigit_iff.mp (h c List.mem_cons_self)
      have hrest := ofDigitChars_lt_pow fun c' hc' => h c' (List.mem_cons_of_mem c hc')
      rw [ofDigitChars_cons_zero, List.length_cons, Nat.pow_succ]
      calc 10 ^ cs.length * (c.toNat - 48) + Nat.ofDigitChars 10 cs 0
          < 10 ^ cs.length * (c.toNat - 48) + 10 ^ cs.length := by omega
        _ = 10 ^ cs.length * (c.toNat - 48 + 1) := by rw [Nat.mul_succ]
        _ ≤ 10 ^ cs.length * 10 := Nat.mul_le_mul_left _ (by omega)

/-- Two digit strings of one length compare, character by character, as the numbers they
spell. -/
theorem lt_of_ofDigitChars_lt :
    ∀ {a b : List Char}, (∀ c ∈ a, c.isDigit = true) → (∀ c ∈ b, c.isDigit = true) →
      a.length = b.length → Nat.ofDigitChars 10 a 0 < Nat.ofDigitChars 10 b 0 → a < b
  | [], [], _, _, _, h => absurd h (by simp [Nat.ofDigitChars_nil])
  | x :: a, y :: b, ha, hb, hlen, h => by
      have hx := isDigit_iff.mp (ha x List.mem_cons_self)
      have hy := isDigit_iff.mp (hb y List.mem_cons_self)
      have ha' : ∀ c ∈ a, c.isDigit = true := fun c hc => ha c (List.mem_cons_of_mem x hc)
      have hb' : ∀ c ∈ b, c.isDigit = true := fun c hc => hb c (List.mem_cons_of_mem y hc)
      have hlen' : a.length = b.length := by simpa using hlen
      have hva := ofDigitChars_lt_pow ha'
      have hvb := ofDigitChars_lt_pow hb'
      rw [ofDigitChars_cons_zero, ofDigitChars_cons_zero, ← hlen'] at h
      rw [List.cons_lt_cons_iff, Char.lt_iff_toNat_lt]
      -- the first digits decide, unless they are equal
      rcases Nat.lt_trichotomy x.toNat y.toNat with hxy | hxy | hxy
      · exact .inl hxy
      · refine .inr ⟨Char.toNat_inj.mp hxy, lt_of_ofDigitChars_lt ha' hb' hlen' ?_⟩
        rw [hxy] at h
        omega
      · -- a larger first digit outweighs whatever follows
        have hmul : 10 ^ a.length * (y.toNat - 48 + 1) ≤ 10 ^ a.length * (x.toNat - 48) :=
          Nat.mul_le_mul_left _ (by omega)
        rw [Nat.mul_succ] at hmul
        rw [← hlen'] at hvb
        omega
  | [], _ :: _, _, _, hlen, _ => by simp at hlen
  | _ :: _, [], _, _, hlen, _ => by simp at hlen

/-- A list that comes first among lists of its length stays first whatever follows each. -/
theorem List.append_lt_append_of_lt {α : Type} [LT α] :
    ∀ {a b : List α} (c d : List α), a < b → a.length = b.length → a ++ c < b ++ d
  | [], [], _, _, h, _ => absurd h (List.not_lt_nil _)
  | x :: a, y :: b, c, d, h, hlen => by
      rw [List.cons_append, List.cons_append, List.cons_lt_cons_iff]
      rcases List.cons_lt_cons_iff.mp h with hxy | ⟨rfl, hab⟩
      · exact .inl hxy
      · exact .inr ⟨rfl, List.append_lt_append_of_lt c d hab (by simpa using hlen)⟩
  | [], _ :: _, _, _, _, hlen => by simp at hlen
  | _ :: _, [], _, _, _, hlen => by simp at hlen

/-! ## Final names in run order -/

namespace Store

/-- The digits of an index below `10^8` are eight: the padding fills them up. -/
theorem length_indexDigits {k : Nat} (hk : k < 10 ^ 8) : (indexDigits k).toList.length = 8 := by
  have hle : (Nat.toDigits 10 k).length ≤ 8 :=
    (Nat.length_toDigits_le_iff (by decide) (by decide)).mpr hk
  rw [toList_indexDigits, List.length_append, List.length_replicate]
  omega

/-- Below `10^8`, the final names sort in run order. -/
theorem fileName_lt_fileName {i j : Nat} (hij : i < j) (hj : j < 10 ^ 8) :
    fileName i < fileName j := by
  have hlen : (indexDigits i).toList.length = (indexDigits j).toList.length := by
    rw [length_indexDigits (by omega), length_indexDigits hj]
  have hdigits : (indexDigits i).toList < (indexDigits j).toList := by
    refine lt_of_ofDigitChars_lt (fun c hc => isDigit_of_mem_indexDigits hc)
      (fun c hc => isDigit_of_mem_indexDigits hc) hlen ?_
    rw [ofDigitChars_indexDigits, ofDigitChars_indexDigits]
    exact hij
  rw [String.lt_iff_toList_lt, toList_fileName, toList_fileName, List.append_assoc,
    List.append_assoc]
  exact List.append_left_lt (List.append_lt_append_of_lt _ _ hdigits hlen)

/-! ## The listing -/

/-- **Listing order.** A store can be listed exactly when its directory is there. Its listing is
then the files directly in the directory whose names are `vector`, one or more ASCII digits and
`.test`, each once, in strictly increasing order of names; so the final files of any two runs
below `10^8` are listed in run order. Past `10^8` that fails (`list_across_eight_digits`). -/
theorem list_in_run_order (s : Store) (d : Disk) :
    ((∃ ls, s.list d = .ok ls) ↔ ∃ p, d.lookup s.dir = .ok (p, .dir)) ∧
    ∀ p, d.lookup s.dir = .ok (p, .dir) →
      ∃ names : List String, s.list d = .ok (names.map s.dir.join) ∧
        (∀ n, n ∈ names ↔ (∃ content, d.get? (p ++ [n]) = some (.file content)) ∧
          IsFinalName n) ∧
        names.Pairwise (· < ·) ∧
        ∀ i j, i < j → j < 10 ^ 8 → fileName i ∈ names → fileName j ∈ names →
          [s.pathFor i, s.pathFor j].Sublist (names.map s.dir.join) := by
  refine ⟨⟨fun ⟨_, hls⟩ => lookup_of_list hls, fun ⟨p, hp⟩ => ?_⟩, fun p hp => ?_⟩
  · obtain ⟨names, hnames, -⟩ := list_sorted hp
    exact ⟨_, hnames⟩
  · obtain ⟨names, hnames, hmem, hsorted⟩ := list_sorted hp
    refine ⟨names, hnames, hmem, hsorted, fun i j hij hj hi hj' => ?_⟩
    have hlt := fileName_lt_fileName hij hj
    -- two listed names in order are a sublist of the sorted listing
    have hpair : [fileName i, fileName j].Sublist names := by
      refine List.sublist_of_subperm_of_pairwise (r := (· ≤ ·)) ?_ (by simpa using hlt.le)
        (hsorted.imp le_of_lt)
      refine List.Nodup.subperm (by simpa using hlt.ne) ?_
      intro n hn
      rcases List.mem_pair.mp hn with rfl | rfl
      · exact hi
      · exact hj'
    simpa [pathFor] using hpair.map s.dir.join

/-- Past eight digits the order of names is not the order of runs: a store holding the vectors
of runs `99999999` and `100000000` lists run `100000000` first. -/
theorem list_across_eight_digits :
    ({ dir := Location.root } : Store).list
        ((Disk.empty.put [fileName 99999999] (.file "")).put [fileName 100000000] (.file "")) =
      .ok [({ dir := Location.root } : Store).pathFor 100000000,
        ({ dir := Location.root } : Store).pathFor 99999999] := by
  obtain ⟨names, hnames, hmem, hsorted⟩ := list_sorted (s := { dir := Location.root })
    (Disk.lookup_root ((Disk.empty.put [fileName 99999999] (.file "")).put [fileName 100000000]
      (.file "")))
  have hlt : fileName 100000000 < fileName 99999999 := by decide
  -- the directory holds exactly the two files
  have hmem' : ∀ n, n ∈ names ↔ n ∈ [fileName 100000000, fileName 99999999] := by
    intro n
    rw [hmem, List.mem_pair]
    by_cases h1 : n = fileName 100000000
    · subst h1
      exact ⟨fun _ => .inl rfl, fun _ =>
        ⟨⟨"", Disk.get?_put_self _ _ (by simp)⟩, isFinalName_fileName _⟩⟩
    · by_cases h2 : n = fileName 99999999
      · subst h2
        refine ⟨fun _ => .inr rfl, fun _ => ⟨⟨"", ?_⟩, isFinalName_fileName _⟩⟩
        rw [List.nil_append, Disk.get?_put_of_ne _ _ (by simpa using Ne.symm h1),
          Disk.get?_put_self _ _ (by simp)]
      · refine ⟨fun ⟨⟨content, hget⟩, _⟩ => ?_, fun h => (h.elim h1 h2).elim⟩
        rw [List.nil_append, Disk.get?_put_of_ne _ _ (by simpa using Ne.symm h1),
          Disk.get?_put_of_ne _ _ (by simpa using Ne.symm h2)] at hget
        simp [Disk.get?, Disk.empty] at hget
  have hperm : names.Perm [fileName 100000000, fileName 99999999] :=
    (List.perm_ext_iff_of_nodup (List.nodup_iff_pairwise_ne.mpr (hsorted.imp ne_of_lt))
      (by simpa using hlt.ne) ).mpr hmem'
  have heq : names = [fileName 100000000, fileName 99999999] :=
    hperm.eq_of_pairwise (fun a b _ _ hab hba => absurd (hab.trans hba) (lt_irrefl a)) hsorted
      (by simpa using hlt)
  rw [hnames, heq]
  rfl

end Store

end VectorCapture
