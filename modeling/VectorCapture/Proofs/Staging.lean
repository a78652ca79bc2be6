import VectorCapture.Proofs.StoreFiles

/-! # Staging is atomic

    A vector reaches its final name in one move. Staging makes one new, empty hidden file, under
    a name of the staging series that was free, and writes the record's whole text into it; when
    the file cannot be made nothing changes, and when the text cannot be written the file is
    taken away. Committing moves the staged file over the final name of the record's index,
    replacing a file there, or takes it away when the move fails; dropping a staged vector takes
    it away as well. Every disk in between differs from the first at one path at most, and a
    final name only ever receives a whole text.

    So `persist` is all or nothing: it answers the final location of the record, and the disk
    has changed at that name alone, which now holds the record's text; or it fails, and every
    path holds what it held, a complete file already under the final name included. The route:

    * the disk: a rename that succeeds puts the moved file where the destination leads and
      changes nothing else (`Disk.lookup_rename`);
    * the device: staging succeeds only on a device with room for the record's text besides
      what its files hold, so on one without it staging fails (`Store.stage_of_full`);
    * the store: what a staging leaves when it fails at either step (`Store.stage_error`), and
      what a commit or a drop of a freshly staged vector leaves, read against the disk before
      staging (`Store.commit_staged`, `Store.discard_staged`);
    * `Store.staging_is_atomic` puts staging, committing, dropping and `persist` together. -/

namespace VectorCapture

namespace Store

variable {s : Store} {d d1 d2 : Disk} {r : Record} {st : Staged}

/-- A staging that succeeds adds one file, holding the record's text, at a path that was free and
whose last name is of the staging series; the staged vector is meant for the final location of
the record's index. -/
theorem stage_adds_one_file (h : s.stage d r = (.ok st, d1)) :
    ∃ x k, x.getLast? = some (Disk.seriesName tempPrefix tempSuffix k) ∧ d.get? x = none ∧
      d1.get? x = some (.file r.render) ∧ d1.lookup st.temp = .ok (x, .file r.render) ∧
      st.final = s.pathFor r.index ∧ ∀ y, y ≠ x → d1.get? y = d.get? y := by
  obtain ⟨q, k, hfree, hagree, hlookup, hfinal⟩ := stage_lookup h
  refine ⟨q ++ [Disk.seriesName tempPrefix tempSuffix k], k, by simp, hfree,
    by rw [hagree]; exact Disk.get?_put_self _ _ (by simp), hlookup, hfinal, fun y hy => ?_⟩
  rw [hagree, Disk.get?_put_of_ne _ _ (Ne.symm hy)]

/-- Committing a freshly staged vector either moves it over the final location of the record's
index, so that the disk differs from the one before staging only where that location leads, now
holding the record's text; or fails and takes the staged file away, leaving every path as it was
before staging. -/
theorem commit_staged {res : Except StoreError (Location × Disk)} (h : s.stage d r = (.ok st, d1))
    (hc : commit st d1 = (res, d2)) :
    (res = .ok (s.pathFor r.index, d2) ∧
      ∃ z, d2.lookup (s.pathFor r.index) = .ok (z, .file r.render) ∧
        ∀ y, y ≠ z → d2.get? y = d.get? y) ∨
    ((∃ e, res = .error e) ∧ ∀ y, d2.get? y = d.get? y) := by
  obtain ⟨q, k, hfree, hagree, hlookup, hfinal⟩ := stage_lookup h
  unfold commit at hc
  split at hc
  · next d' hrename =>
      -- the move: the staged file leaves its free path for the final one
      obtain ⟨hres, rfl⟩ := Prod.mk.inj hc
      obtain ⟨z, hz, hrest⟩ := Disk.lookup_rename hlookup hrename
      rw [hfinal] at hres hz
      refine .inl ⟨hres.symm, z, hz, fun y hy => ?_⟩
      rw [hrest y hy, Disk.get?_erase_of_agree hfree hagree]
  · next e hrename =>
      -- the failed move: the staged file is taken away again
      obtain ⟨hres, rfl⟩ := Prod.mk.inj hc
      refine .inr ⟨⟨_, hres.symm⟩, fun y => ?_⟩
      rw [Disk.removeFile_of_lookup hlookup, Disk.get?_erase_of_agree hfree hagree]

/-- Dropping a freshly staged vector leaves every path as it was before staging. -/
theorem discard_staged (h : s.stage d r = (.ok st, d1)) (y : Path) :
    (discard st d1).get? y = d.get? y := by
  obtain ⟨q, k, hfree, hagree, hlookup, -⟩ := stage_lookup h
  rw [discard, Disk.removeFile_of_lookup hlookup, Disk.get?_erase_of_agree hfree hagree]

/-- On a device that cannot hold the record's text besides the text its files hold, staging never
succeeds: it fails to make its file, or to write the text in it. -/
theorem stage_of_full {cap : Nat} (hcap : d.capacity = some cap)
    (hfull : cap < d.used + r.render.utf8ByteSize) (st : Staged) (d1 : Disk) :
    s.stage d r ≠ (.ok st, d1) := by
  intro h
  rcases stage_cases s d r with ⟨e, he⟩ | ⟨q, _, -, -, -, ⟨e, he⟩ | ⟨hfits, he⟩⟩ <;>
    rw [he] at h
  · cases h
  · cases h
  · -- a staging that succeeds found room for the whole text
    have hroom := Disk.le_of_fits hcap hfits
    omega

/-- **Staging is atomic.** A staging that fails, to make its file or to write the record's text
in it, leaves every path as it was. One that succeeds adds one file of the staging series holding
the record's text, at a path that was free, and changes nothing else: not the final name, whose
last name is never a staging name. Committing it then either moves it over the final location of
the record's index, replacing what was there, or fails and takes it away; dropping it takes it
away. So `persist` either answers the final location, with the disk changed only where that
location leads, which now holds the record's text; or fails with every path as it was. -/
theorem staging_is_atomic (s : Store) (d : Disk) (r : Record) :
    (∀ e d1, s.stage d r = (.error e, d1) →
      ((∃ oe, e = .createTemp s.dir (s.staging.join tempGuess) oe) ∨
        ∃ k oe, e = .writeTemp (s.staging.join (Disk.seriesName tempPrefix tempSuffix k)) oe) ∧
      ∀ y, d1.get? y = d.get? y) ∧
    (∀ st d1, s.stage d r = (.ok st, d1) →
      (∃ x k, x.getLast? = some (Disk.seriesName tempPrefix tempSuffix k) ∧ d.get? x = none ∧
        d1.get? x = some (.file r.render) ∧ d1.lookup st.temp = .ok (x, .file r.render) ∧
        st.final = s.pathFor r.index ∧ ∀ y, y ≠ x → d1.get? y = d.get? y) ∧
      (∀ res d2, commit st d1 = (res, d2) →
        (res = .ok (s.pathFor r.index, d2) ∧
          ∃ z, d2.lookup (s.pathFor r.index) = .ok (z, .file r.render) ∧
            ∀ y, y ≠ z → d2.get? y = d.get? y) ∨
        ((∃ e, res = .error e) ∧ ∀ y, d2.get? y = d.get? y)) ∧
      ∀ y, (discard st d1).get? y = d.get? y) ∧
    ((∃ z, (s.persist d r).1 = .ok (s.pathFor r.index) ∧
        (s.persist d r).2.lookup (s.pathFor r.index) = .ok (z, .file r.render) ∧
        ∀ y, y ≠ z → (s.persist d r).2.get? y = d.get? y) ∨
      ((∃ e, (s.persist d r).1 = .error e) ∧ ∀ y, (s.persist d r).2.get? y = d.get? y)) := by
  refine ⟨fun e d1 h => stage_error h, fun st d1 h => ⟨stage_adds_one_file h,
    fun res d2 hc => commit_staged h hc, discard_staged h⟩, ?_⟩
  unfold persist
  split
  · next e d1 hstage =>
      -- staging failed: it left every path as it was
      exact .inr ⟨⟨e, rfl⟩, (stage_error hstage).2⟩
  · next st d1 hstage =>
      split
      · next l d' d2 hc =>
          rcases commit_staged hstage hc with ⟨hres, z, hz, hrest⟩ | ⟨⟨e, he⟩, -⟩
          · obtain ⟨rfl, -⟩ := Prod.mk.inj (Except.ok.inj hres)
            exact .inl ⟨z, rfl, hz, hrest⟩
          · cases he
      · next e d2 hc =>
          rcases commit_staged hstage hc with ⟨hres, -⟩ | ⟨-, hsame⟩
          · cases hres
          · exact .inr ⟨⟨e, rfl⟩, hsame⟩

end Store

end VectorCapture
