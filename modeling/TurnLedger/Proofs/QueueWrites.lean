import TurnLedger.Proofs.ReplayPass
import TurnLedger.Proofs.QueueAppend

/-!
# What queueing leaves on the volume

Queueing only adds to a volume. It creates the missing directories where nothing was, then
appends the record's block to the day file, or writes that file with its title and the block.
No directory is taken away, so a path that could be walked before still can (`walk_of_keeps`),
and a volume stays well formed. Settled text gains exactly the record's entry and stays settled
(`entriesOf_append_entryBlock`), so a day file holding settled text gains one entry, the
record's (`enqueue_eq_ok`).
-/

namespace TurnLedger.Files

theorem not_mem_of_mem_splitOnPPrepend {α : Type} (P : α → Bool) :
    ∀ (l acc : List α), (∀ c ∈ acc, P c = false) →
      ∀ x ∈ List.splitOnPPrepend P l acc, ∀ c ∈ x, P c = false
  | [], acc, hacc, x, hx => by
    rw [List.splitOnPPrepend_nil, List.mem_singleton] at hx
    subst hx
    simpa using hacc
  | a :: t, acc, hacc, x, hx => by
    cases ha : P a
    · rw [List.splitOnPPrepend_cons_neg ha] at hx
      refine not_mem_of_mem_splitOnPPrepend P t (a :: acc) (fun c hc => ?_) x hx
      rcases List.mem_cons.1 hc with rfl | hc
      · exact ha
      · exact hacc c hc
    · rw [List.splitOnPPrepend_cons_pos ha] at hx
      rcases List.mem_cons.1 hx with rfl | hx
      · simpa using hacc
      · exact not_mem_of_mem_splitOnPPrepend P t [] (by simp) x hx

theorem not_mem_of_mem_splitBy {s x : String} {c : Char} (h : x ∈ splitBy s c) :
    c ∉ x.toList := by
  obtain ⟨y, hy, rfl⟩ := List.mem_map.1 h
  have hy' := not_mem_of_mem_splitOnPPrepend (· == c) s.toList [] (by simp) y hy
  simpa using fun hc => by simpa using hy' c hc

theorem names_traceParts {here : List String} (hh : ∀ n ∈ here, IsName n)
    {left : List (List String)} {xs : List String} (hx : ∀ s ∈ xs, '/' ∉ s.toList) :
    ∀ n ∈ (traceParts here left xs).1, IsName n := by
  induction xs generalizing here left with
  | nil => exact hh
  | cons s rest ih =>
    have hrest : ∀ s ∈ rest, '/' ∉ s.toList := fun s' hs' => hx s' (.tail _ hs')
    simp only [traceParts]
    split
    · exact ih hh hrest
    · rename_i hskip
      split
      · exact ih (fun n hn => hh n ((List.dropLast_sublist _).subset hn)) hrest
      · rename_i hup
        refine ih (fun n hn => ?_) hrest
        rcases List.mem_append.1 hn with hn | hn
        · exact hh n hn
        · rw [List.mem_singleton] at hn
          subst hn
          simp only [Bool.or_eq_true, beq_iff_eq, not_or, String.isEmpty_iff] at hskip
          exact ⟨hskip.1, hskip.2, by simpa using hup, hx _ (.head _)⟩

namespace Volume

theorem names_locate (v : Volume) (hc : ∀ n ∈ v.cwd, IsName n) (p : Path) :
    ∀ n ∈ v.locate p, IsName n := by
  rw [locate_eq]
  refine names_traceParts (fun n hn => ?_) (fun s hs => not_mem_of_mem_splitBy hs)
  split at hn
  · simp at hn
  · exact hc n hn

theorem WellFormed.put {v : Volume} (hv : v.WellFormed) {ks : List String}
    (hks : ∀ n ∈ ks, IsName n) (n : Node) : (v.put ks n).WellFormed := by
  unfold Volume.put
  split
  · have hfst : (v.nodes.map fun e => if e.1 == ks then (ks, n) else e).map Prod.fst =
        v.nodes.map Prod.fst := by
      rw [List.map_map]
      refine List.map_congr_left fun e _ => ?_
      by_cases he : e.1 = ks <;> simp [he]
    refine ⟨by rw [hfst]; exact hv.nodup, fun e he m hm => ?_⟩
    obtain ⟨e₀, he₀, rfl⟩ := List.mem_map.1 he
    by_cases h : e₀.1 = ks
    · simp only [h, beq_self_eq_true, if_true] at hm
      exact hks m hm
    · simp only [beq_iff_eq, h, if_false] at hm
      exact hv.names e₀ he₀ m hm
  · rename_i hany
    refine ⟨?_, fun e he m hm => ?_⟩
    · rw [List.map_append, List.nodup_append]
      refine ⟨hv.nodup, by simp, fun a ha b hb hab => hany ?_⟩
      obtain ⟨e, he, rfl⟩ := List.mem_map.1 ha
      rw [List.map_singleton, List.mem_singleton] at hb
      exact List.any_eq_true.2 ⟨e, he, by simp [hab, hb]⟩
    · rcases List.mem_append.1 he with he | he
      · exact hv.names e he m hm
      · rw [List.mem_singleton] at he
        subst he
        exact hks m hm

theorem WellFormed.erase {v : Volume} (hv : v.WellFormed) (ks : List String) :
    (v.erase ks).WellFormed :=
  ⟨hv.nodup.sublist (List.Sublist.map Prod.fst List.filter_sublist), fun e he =>
    hv.names e (List.mem_of_mem_filter he)⟩

/-- Every directory of `v` is still one in `v'`, seen from the same working directory. -/
structure Keeps (v v' : Volume) : Prop where
  cwd : v'.cwd = v.cwd
  dirs : ∀ k, v.nodeAt k = some .directory → v'.nodeAt k = some .directory

theorem Keeps.refl (v : Volume) : Keeps v v := ⟨rfl, fun _ h => h⟩

theorem Keeps.trans {u v w : Volume} (h₁ : Keeps u v) (h₂ : Keeps v w) : Keeps u w :=
  ⟨h₂.cwd.trans h₁.cwd, fun k h => h₂.dirs k (h₁.dirs k h)⟩

theorem keeps_put (v : Volume) {ks : List String} (hks : ks ≠ [])
    (hd : v.nodeAt ks ≠ some .directory) (n : Node) : Keeps v (v.put ks n) := by
  refine ⟨by simp, fun k hk => ?_⟩
  rw [nodeAt_put _ hks]
  split
  · rename_i h; subst h; exact absurd hk hd
  · exact hk

theorem keeps_erase (v : Volume) {ks : List String} (hks : ks ≠ [])
    (hd : v.nodeAt ks ≠ some .directory) : Keeps v (v.erase ks) := by
  refine ⟨rfl, fun k hk => ?_⟩
  rw [nodeAt_erase _ hks]
  split
  · rename_i h; subst h; exact absurd hk hd
  · exact hk

theorem foldlM_unit_eq_ok_iff {α ε : Type} {f : Unit → α → Except ε Unit} :
    ∀ l : List α, l.foldlM f () = .ok () ↔ ∀ a ∈ l, f () a = .ok ()
  | [] => by simp [List.foldlM, pure, Except.pure]
  | a :: l => by
    rw [List.foldlM_cons, List.forall_mem_cons, ← foldlM_unit_eq_ok_iff l]
    constructor
    · intro h
      obtain ⟨⟨⟩, ha, h⟩ := Except.bind_eq_ok.1 h
      exact ⟨ha, h⟩
    · rintro ⟨ha, h⟩
      simp [ha, h, bind, Except.bind]

theorem forM_eq_ok_iff {α ε : Type} {f : α → Except ε PUnit} :
    ∀ l : List α, l.forM f = .ok () ↔ ∀ a ∈ l, f a = .ok ()
  | [] => by simp [List.forM, pure, Except.pure]
  | a :: l => by
    rw [List.forall_mem_cons, ← forM_eq_ok_iff l]
    show (f a >>= fun _ => l.forM f) = .ok () ↔ _
    constructor
    · intro h
      obtain ⟨⟨⟩, ha, h⟩ := Except.bind_eq_ok.1 h
      exact ⟨ha, h⟩
    · rintro ⟨ha, h⟩
      simp [ha, h, bind, Except.bind]

theorem foldlM_unit_mono {α ε : Type} {f g : Unit → α → Except ε Unit}
    (hfg : ∀ a, f () a = .ok () → g () a = .ok ()) :
    ∀ l : List α, l.foldlM f () = .ok () → l.foldlM g () = .ok () := fun l h =>
  (foldlM_unit_eq_ok_iff l).2 fun a ha => hfg a ((foldlM_unit_eq_ok_iff l).1 h a ha)

theorem forM_mono {α ε : Type} {f g : α → Except ε PUnit}
    (hfg : ∀ a, f a = .ok () → g a = .ok ()) :
    ∀ l : List α, l.forM f = .ok () → l.forM g = .ok () := fun l h =>
  (forM_eq_ok_iff l).2 fun a ha => hfg a ((forM_eq_ok_iff l).1 h a ha)

theorem parentsOk_of_keeps {v v' : Volume} (h : Keeps v v') {ks : List String}
    (hp : v.parentsOk ks = .ok ()) : v'.parentsOk ks = .ok () := by
  refine foldlM_unit_mono (fun n hn => ?_) _ hp
  split at hn
  · rw [h.dirs _ ‹_›]
  · cases hn
  · cases hn

theorem directoryOk_of_keeps {v v' : Volume} (h : Keeps v v') {ks : List String}
    (hd : v.directoryOk ks = .ok ()) : v'.directoryOk ks = .ok () := by
  unfold directoryOk at hd ⊢
  obtain ⟨⟨⟩, hp, hd⟩ := Except.bind_eq_ok.1 hd
  rw [parentsOk_of_keeps h hp]
  split at hd
  · simp [bind, Except.bind, h.dirs _ ‹_›]
  · cases hd
  · cases hd

theorem walk_of_keeps {v v' : Volume} (h : Keeps v v') {p : Path} {ks : List String}
    (hw : v.walk p = .ok ks) : v'.walk p = .ok ks := by
  unfold walk at hw ⊢
  rw [h.cwd]
  by_cases hp : p.isEmpty = true
  · simp only [hp, if_true] at hw
    obtain ⟨_, hw, -⟩ := Except.bind_eq_ok.1 hw
    cases hw
  simp only [hp, Bool.false_eq_true, if_false] at hw ⊢
  obtain ⟨⟨⟩, hl, hw⟩ := Except.bind_eq_ok.1 hw
  obtain ⟨⟨⟩, hk, hw⟩ := Except.bind_eq_ok.1 hw
  rw [forM_mono (fun _ => directoryOk_of_keeps h) _ hl]
  simp only [bind, Except.bind, parentsOk_of_keeps h hk]
  exact hw

theorem readText_of_walk {v : Volume} {p : Path} {ks : List String} {s : String}
    (hw : v.walk p = .ok ks) (he : endsInSlash p = false)
    (hn : v.nodeAt ks = some (.file s.toUTF8)) : v.readText p = .ok s := by
  simp [readText, readBytes, resolve, hw, he, hn, bind, Except.bind, pure, Except.pure,
    Json.fromUTF8?_toByteArray]

theorem writeText_of_walk {v : Volume} {p : Path} {ks : List String} {s : String}
    (hw : v.walk p = .ok ks) (he : endsInSlash p = false) (hn : v.nodeAt ks = none) :
    v.writeText p s = .ok (v.put ks (.file s.toUTF8)) := by
  simp [writeText, writeBytes, hw, he, hn, bind, Except.bind]

/-- A node kept, or made a directory where nothing was, and then again, was kept or made a
directory where nothing was. -/
theorem grown_trans {a b c : Option Node} (h₁ : b = a ∨ a = none ∧ b = some .directory)
    (h₂ : c = b ∨ b = none ∧ c = some .directory) : c = a ∨ a = none ∧ c = some .directory := by
  rcases h₁ with h | ⟨hn, hd⟩ <;> rcases h₂ with h' | ⟨hn', hd'⟩
  · exact .inl (h'.trans h)
  · exact .inr ⟨h ▸ hn', hd'⟩
  · exact .inr ⟨hn, h'.trans hd⟩
  · rw [hd] at hn'; cases hn'

structure Grows (v v' : Volume) : Prop where
  cwd : v'.cwd = v.cwd
  nodeAt : ∀ k, v'.nodeAt k = v.nodeAt k ∨ v.nodeAt k = none ∧ v'.nodeAt k = some .directory

theorem Grows.refl (v : Volume) : Grows v v := ⟨rfl, fun _ => .inl rfl⟩

theorem Grows.trans {u v w : Volume} (h₁ : Grows u v) (h₂ : Grows v w) : Grows u w :=
  ⟨h₂.cwd.trans h₁.cwd, fun k => grown_trans (h₁.nodeAt k) (h₂.nodeAt k)⟩

theorem Grows.keeps {v v' : Volume} (h : Grows v v') : Keeps v v' := by
  refine ⟨h.cwd, fun k hk => ?_⟩
  rcases h.nodeAt k with h' | ⟨hn, -⟩
  · rw [h', hk]
  · rw [hk] at hn; cases hn

theorem createDir_eq_ok {v v' : Volume} {p : Path} (h : v.createDir p = .ok v') :
    v.locate p ≠ [] ∧ v.nodeAt (v.locate p) = none ∧ v' = v.put (v.locate p) .directory := by
  unfold createDir at h
  obtain ⟨ks, hw, h⟩ := Except.bind_eq_ok.1 h
  obtain rfl := walk_eq_ok hw
  split at h
  · cases h
  · cases h
    rename_i hn
    exact ⟨fun h0 => (by rw [h0] at hn; cases hn), hn, rfl⟩

theorem createDir_grows {v v' : Volume} (hv : v.WellFormed) (hc : ∀ n ∈ v.cwd, IsName n)
    {p : Path} (h : v.createDir p = .ok v') : Grows v v' ∧ v'.WellFormed := by
  obtain ⟨hks, hn, rfl⟩ := createDir_eq_ok h
  refine ⟨⟨by simp, fun k => ?_⟩, hv.put (v.names_locate hc p) _⟩
  rw [nodeAt_put _ hks]
  split
  · rename_i hk; subst hk; exact .inr ⟨hn, rfl⟩
  · exact .inl rfl

theorem createDirAllUpTo_grows {v : Volume} (hv : v.WellFormed) (hc : ∀ n ∈ v.cwd, IsName n) :
    ∀ (fuel : Nat) (p : Path) {v' : Volume}, createDirAllUpTo fuel v p = .ok v' →
      Grows v v' ∧ v'.WellFormed := by
  intro fuel
  induction fuel with
  | zero =>
    intro p v' h
    unfold createDirAllUpTo at h
    split at h
    · cases h; exact ⟨.refl v, hv⟩
    split at h
    · cases h; exact createDir_grows hv hc ‹_›
    · rename_i heq; cases heq
    · split at h
      · cases h; exact ⟨.refl v, hv⟩
      · cases h
  | succ fuel ih =>
    intro p v' h
    unfold createDirAllUpTo at h
    split at h
    · cases h; exact ⟨.refl v, hv⟩
    split at h
    · cases h; exact createDir_grows hv hc ‹_›
    · rename_i heq
      obtain rfl := Nat.succ.inj heq
      split at h
      · cases h
      · -- the parent first, then the directory itself
        obtain ⟨w, hw, h⟩ := Except.bind_eq_ok.1 h
        obtain ⟨hg, hwf⟩ := ih _ hw
        split at h
        · cases h
          obtain ⟨hg', hwf'⟩ := createDir_grows hwf (hg.cwd ▸ hc) ‹_›
          exact ⟨hg.trans hg', hwf'⟩
        · split at h
          · cases h; exact ⟨hg, hwf⟩
          · cases h
    · split at h
      · cases h; exact ⟨.refl v, hv⟩
      · cases h

theorem resolve_of_walk {v : Volume} {p : Path} {ks : List String} (hw : v.walk p = .ok ks)
    (he : endsInSlash p = false) : v.resolve p = .ok ks := by
  simp [resolve, hw, he, bind, Except.bind, pure, Except.pure]

theorem walk_of_writeText {v v' : Volume} {p : Path} {s : String} (h : v.writeText p s = .ok v') :
    v.walk p = .ok (v.locate p) := by
  unfold writeText writeBytes at h
  obtain ⟨ks, hw, -⟩ := Except.bind_eq_ok.1 h
  rw [hw, walk_eq_ok hw]

end Volume

theorem toUTF8_append (a b : String) : (a ++ b).toUTF8 = a.toUTF8 ++ b.toUTF8 :=
  ByteArray.ext rfl

theorem Except.mapError_eq_ok {ε ε' α : Type} {x : Except ε α} {f : ε → ε'} {a : α} :
    x.mapError f = .ok a ↔ x = .ok a := by
  cases x <;> simp [Except.mapError]

theorem endsInSlash_join (dir : Path) {n : String} (hn : IsName n) :
    endsInSlash (join dir n) = false := by
  obtain ⟨pre, hpre⟩ := splitBy_join dir hn
  simp [endsInSlash, hpre, hn.1]

end TurnLedger.Files

namespace TurnLedger

namespace Time

theorem mem_dateText {t : Instant} {c : Char} (h : c ∈ t.dateText.toList) :
    c.isDigit = true ∨ c = '-' ∨ c = '+' := by
  simp only [Instant.dateText, String.toList_append, List.mem_append, or_assoc] at h
  rcases h with h | h | h | h | h
  · unfold yearText at h
    split at h
    · exact .inl (isDigit_of_mem_padded h)
    · rw [String.toList_append, List.mem_append] at h
      rcases h with h | h
      · split at h
        · exact .inr (.inl (List.mem_singleton.1 h))
        · exact .inr (.inr (List.mem_singleton.1 h))
      · exact .inl (isDigit_of_mem_padded h)
  · exact .inr (.inl (List.mem_singleton.1 h))
  · exact .inl (isDigit_of_mem_twoDigits h)
  · exact .inr (.inl (List.mem_singleton.1 h))
  · exact .inl (isDigit_of_mem_twoDigits h)

theorem not_mem_dateText {t : Instant} {c : Char} (hd : c.isDigit = false) (hm : c ≠ '-')
    (hp : c ≠ '+') : c ∉ t.dateText.toList := fun h => by
  rcases mem_dateText h with h | h | h
  · rw [hd] at h; cases h
  · exact hm h
  · exact hp h

theorem dateText_ne_empty (t : Instant) : t.dateText ≠ "" := by
  intro h
  have h' := congrArg String.toList h
  simp [Instant.dateText] at h'

end Time

namespace Queue

open Files Activity

theorem isName_dayName (t : Time.Instant) : IsName (t.dateText ++ ".md") := by
  have hlen : ∀ u : String, t.dateText ++ ".md" = u → 3 ≤ u.length := by
    rintro u rfl
    have h3 : ".md".length = 3 := by decide
    simp [h3]
  refine ⟨fun h => absurd (hlen _ h) (by decide), fun h => absurd (hlen _ h) (by decide),
    fun h => absurd (hlen _ h) (by decide), ?_⟩
  simp only [String.toList_append, List.mem_append, not_or]
  exact ⟨Time.not_mem_dateText (by decide) (by decide) (by decide), by decide⟩

theorem locate_dayFile (v : Volume) (dir : Path) (t : Time.Instant) :
    v.locate (dayFile dir t) = v.locate dir ++ [t.dateText ++ ".md"] :=
  Volume.locate_join v dir (isName_dayName t)

theorem splitAtDot_dayName (t : Time.Instant) :
    splitAtDot (t.dateText ++ ".md") = (t.dateText, some "md") := by
  have hsplit : splitBy (t.dateText ++ ".md") '.' = [t.dateText, "md"] := by
    have h := splitBy_append t.dateText "md" '.' (by decide)
    have hdot : '.' ∉ t.dateText.toList := Time.not_mem_dateText (by decide) (by decide) (by decide)
    rw [show t.dateText ++ String.singleton '.' ++ "md" = t.dateText ++ ".md" by
      rw [String.append_assoc]; rfl] at h
    rw [h]
    simp [splitBy, List.splitOn_eq_singleton hdot]
  simp [splitAtDot, hsplit, Time.dateText_ne_empty]

theorem fileStem_dayFile (dir : Path) (t : Time.Instant) :
    fileStem (dayFile dir t) = some t.dateText := by
  simp [fileStem, dayFile, fileName_join dir (isName_dayName t), splitAtDot_dayName]

theorem extension_dayFile (dir : Path) (t : Time.Instant) :
    extension (dayFile dir t) = some "md" := by
  simp [extension, dayFile, fileName_join dir (isName_dayName t), splitAtDot_dayName]

theorem dayName_ne_tmp (t : Time.Instant) (n : String) : t.dateText ++ ".md" ≠ n ++ ".tmp" := by
  intro h
  have h' := congrArg (fun s : String => s.toList.getLast?) h
  simp at h'

theorem entriesOf_titleBlock {L : String} (hL : '\n' ∉ L.toList) : entriesOf (titleBlock L) = [] := by
  have h₀ := blockTexts_titleBlock hL []
  rw [List.append_nil, blockTexts_nil] at h₀
  simp [entriesOf, h₀]

theorem entriesOf_append_entryBlock {d : String} (hd : Settled d.toList) {ts : String}
    (hts : Time.Stamp ts) (r : Record) :
    entriesOf (d ++ entryBlock ts r.toJson) = entriesOf d ++ [entryOf r.toJson] ∧
      Settled (d ++ entryBlock ts r.toJson).toList := by
  obtain ⟨hb, hs⟩ := append_record_block hd hts r
  obtain ⟨hne, htrim, -⟩ := keepable_toJson r
  refine ⟨?_, by rw [String.toList_append]; exact hs⟩
  simp [entriesOf, String.toList_append, hb, List.filterMap_append, htrim, hne, entryOf]

/-- Queueing a record at `now` writes the day file of `now` and otherwise only adds directories
where nothing was. The day file holds what it held before and then the record's block, or, where
nothing was, the title and the block; afterwards it can be walked to, no directory has gone, and
a well-formed volume stays well formed. -/
theorem enqueue_eq_ok {v v' : Volume} (hv : v.WellFormed) (hc : ∀ n ∈ v.cwd, IsName n)
    {dir : Path} {r : Record} {now : Time.Instant} {path : Path}
    (h : enqueue v dir r now = .ok (v', path)) :
    path = dayFile dir now ∧ v'.WellFormed ∧ Volume.Keeps v v' ∧
      (∀ k, k ≠ v.locate path →
        v'.nodeAt k = v.nodeAt k ∨ v.nodeAt k = none ∧ v'.nodeAt k = some .directory) ∧
      v'.walk path = .ok (v.locate path) ∧
      ∃ old : ByteArray,
        (v.nodeAt (v.locate path) = some (.file old) ∨
          v.nodeAt (v.locate path) = none ∧ old = (titleBlock now.dateText).toUTF8) ∧
        v'.nodeAt (v.locate path) =
          some (.file (old ++ (entryBlock now.wholeSecondsText r.toJson).toUTF8)) := by
  unfold enqueue at h
  obtain ⟨v₁, hv₁, h⟩ := Except.bind_eq_ok.1 h
  obtain ⟨hg, hwf⟩ := Volume.createDirAllUpTo_grows hv hc _ _ (Except.mapError_eq_ok.1 hv₁)
  have hloc : ∀ q, v₁.locate q = v.locate q := Volume.locate_congr hg.cwd
  have hslash : endsInSlash (dayFile dir now) = false := endsInSlash_join dir (isName_dayName now)
  -- the day file's node after the directories, and what the volume was there
  have hnode : ∀ b, v₁.nodeAt (v.locate (dayFile dir now)) = b → b ≠ some .directory →
      v.nodeAt (v.locate (dayFile dir now)) = b := by
    intro b hb hd
    rcases hg.nodeAt (v.locate (dayFile dir now)) with h' | ⟨hn, h'⟩
    · rw [← h', hb]
    · rw [hb] at h'; exact absurd h' hd
  -- the write itself puts one file at the day file's parts
  have hput : ∀ (b : ByteArray), v₁.walk (dayFile dir now) = .ok (v.locate (dayFile dir now)) →
      v₁.nodeAt (v.locate (dayFile dir now)) ≠ some .directory →
      let v' := v₁.put (v.locate (dayFile dir now)) (.file b)
      v'.WellFormed ∧ Volume.Keeps v v' ∧
        (∀ k, k ≠ v.locate (dayFile dir now) →
          v'.nodeAt k = v.nodeAt k ∨ v.nodeAt k = none ∧ v'.nodeAt k = some .directory) ∧
        v'.walk (dayFile dir now) = .ok (v.locate (dayFile dir now)) ∧
        v'.nodeAt (v.locate (dayFile dir now)) = some (.file b) := by
    intro b hw hd
    have hks : v.locate (dayFile dir now) ≠ [] := by simp [locate_dayFile]
    have hkeep := Volume.keeps_put v₁ hks hd (.file b)
    refine ⟨hwf.put (by rw [← hloc]; exact v₁.names_locate (hg.cwd ▸ hc) _) _,
      hg.keeps.trans hkeep, fun k hk => ?_, Volume.walk_of_keeps hkeep hw, ?_⟩
    · rw [Volume.nodeAt_put _ hks, if_neg hk]
      exact hg.nodeAt k
    · rw [Volume.nodeAt_put _ hks, if_pos rfl]
  split at h
  · -- no file yet: the title and the block
    rename_i hnone
    obtain ⟨v₂, hw, h⟩ := Except.bind_eq_ok.1 h
    cases h
    have hw' := Except.mapError_eq_ok.1 hw
    obtain ⟨-, rfl⟩ := Volume.writeText_eq_ok hw'
    have hwalk := Volume.walk_of_writeText hw'
    rw [hloc] at hwalk ⊢
    have hn₁ : v₁.nodeAt (v.locate (dayFile dir now)) = none := by
      have hres := Volume.resolve_of_walk hwalk hslash
      simp only [Volume.node?, hres] at hnone
      exact hnone
    obtain ⟨h₁, h₂, h₃, h₄, h₅⟩ := hput _ hwalk (by rw [hn₁]; simp)
    refine ⟨rfl, h₁, h₂, h₃, h₄, (titleBlock now.dateText).toUTF8,
      .inr ⟨hnode none hn₁ (by simp), rfl⟩, ?_⟩
    rw [h₅, toUTF8_append]
  · -- a file: the block appended
    obtain ⟨v₂, hw, h⟩ := Except.bind_eq_ok.1 h
    cases h
    have hw' := Except.mapError_eq_ok.1 hw
    unfold Volume.appendText at hw'
    obtain ⟨old, hold, hw'⟩ := Except.bind_eq_ok.1 hw'
    cases hw'
    obtain ⟨hres, hfile⟩ := Volume.readBytes_eq_ok hold
    rw [hloc] at hres hfile ⊢
    have hwalk := (Volume.resolve_eq_ok hres).1
    obtain ⟨h₁, h₂, h₃, h₄, h₅⟩ := hput _ hwalk (by rw [hfile]; simp)
    exact ⟨rfl, h₁, h₂, h₃, h₄, old, .inl (hnode _ hfile (by simp)), h₅⟩
  · cases h

end Queue

end TurnLedger
