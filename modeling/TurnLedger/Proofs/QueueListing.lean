import Mathlib.Data.String.Basic
import TurnLedger.Proofs.QueueWrites

/-!
# What listing the queue directory finds

A name joined to a directory that can be walked to is walked to as the directory's parts and
the name (`Volume.walk_join`), so whether it names a file is read off the node there. The names
a directory lists are those of the nodes directly inside it, sorted; the queue files of a
directory that can be looked up are exactly its files whose names have the extension `md`, in
strictly increasing order of name (`queueFiles_of_directory`).
-/

namespace TurnLedger.Files

theorem traceParts_blank (here : List String) (left : List (List String)) {xs : List String}
    (hxs : ∀ s ∈ xs, s.isEmpty = true) (ys : List String) :
    traceParts here left (xs ++ ys) = traceParts here left ys := by
  induction xs with
  | nil => rfl
  | cons s rest ih =>
    have hs : s.isEmpty = true := hxs s (.head _)
    simp only [List.cons_append, traceParts, hs, Bool.true_or, if_true]
    exact ih fun x hx => hxs x (.tail _ hx)

theorem traceParts_append_blank (here : List String) (left : List (List String))
    (xs : List String) : traceParts here left (xs ++ [""]) = traceParts here left xs := by
  induction xs generalizing here left with
  | nil => simp [traceParts]
  | cons s rest ih =>
    simp only [List.cons_append, traceParts]
    split
    · exact ih ..
    · split
      · exact ih ..
      · simp [ih]

theorem snd_traceParts_append_name (here : List String) (left : List (List String))
    (xs : List String) {n : String} (hn : IsName n) :
    ∀ x ∈ (traceParts here left (xs ++ [n])).2,
      x ∈ (traceParts here left xs).2 ∨ x = (traceParts here left xs).1 := by
  have hn' : n.isEmpty = false := by simpa using hn.1
  induction xs generalizing here left with
  | nil =>
    intro x hx
    left
    simpa [traceParts, hn', hn.2.1, hn.2.2.1] using hx
  | cons s rest ih =>
    simp only [List.cons_append, traceParts]
    split
    · exact ih _ _
    · split
      · exact ih _ _
      · -- a named part is required to be a directory once a name follows it
        by_cases hr : rest.any (!·.isEmpty) = true
        · simp only [List.any_append, hr, Bool.true_or, if_true]
          exact ih _ _
        · have hblank : ∀ s ∈ rest, s.isEmpty = true := by simpa using hr
          have hrest := traceParts_blank (here ++ [s]) left hblank []
          have hname := traceParts_blank (here ++ [s]) (left ++ [here ++ [s]]) hblank [n]
          rw [List.append_nil] at hrest
          have hany : (rest ++ [n]).any (!·.isEmpty) = true := by simp [hn']
          rw [if_pos hany, if_neg hr, hrest, hname]
          intro x hx
          simpa [traceParts, hn', hn.2.1, hn.2.2.1] using hx

/-- The parts of a name joined to a directory: the directory's parts, then the name, for a
directory path that ends in a slash or not. -/
theorem splitBy_join_cases {dir : Path} (hd : dir ≠ "") {n : String} (hn : IsName n) :
    ∃ xs, splitBy (join dir n) '/' = xs ++ [n] ∧
      (splitBy dir '/' = xs ∨ splitBy dir '/' = xs ++ [""]) := by
  unfold join
  rw [if_neg (by simp [hn.not_startsWith])]
  split
  · rename_i hs
    obtain ⟨d, rfl⟩ := (endsWith_slash_iff _).1 (by simpa [hd] using hs)
    exact ⟨splitBy d '/', splitBy_append d n '/' hn.2.2.2,
      .inr (by simpa using splitBy_append d "" '/' (by simp))⟩
  · exact ⟨splitBy dir '/', splitBy_append dir n '/' hn.2.2.2, .inl rfl⟩

theorem trace_join (start : List String) {dir : Path} (hd : dir ≠ "") {n : String} (hn : IsName n) :
    (trace start (join dir n)).1 = (trace start dir).1 ++ [n] ∧
      ∀ x ∈ (trace start (join dir n)).2, x ∈ (trace start dir).2 ∨ x = (trace start dir).1 := by
  obtain ⟨xs, hj, hdir⟩ := splitBy_join_cases hd hn
  have htrace : trace start dir = traceParts start [] xs := by
    rcases hdir with h | h <;> simp [trace, h, traceParts_append_blank]
  rw [htrace, trace, hj, fst_traceParts_append, fst_traceParts_name _ hn]
  exact ⟨rfl, snd_traceParts_append_name start [] xs hn⟩

namespace Volume

theorem parentsOk_eq_ok_iff {v : Volume} {ks : List String} :
    v.parentsOk ks = .ok () ↔
      ∀ i, i + 1 < ks.length → v.nodeAt (ks.take (i + 1)) = some .directory := by
  unfold parentsOk
  rw [foldlM_unit_eq_ok_iff]
  refine forall_congr' fun i => ?_
  rw [List.mem_range, show (i < ks.length - 1 ↔ i + 1 < ks.length) by omega]
  refine imp_congr_right fun _ => ?_
  split <;> simp_all

theorem parentsOk_append {v : Volume} {ks : List String} (hp : v.parentsOk ks = .ok ())
    (hd : v.nodeAt ks = some .directory) (n : String) : v.parentsOk (ks ++ [n]) = .ok () := by
  rw [parentsOk_eq_ok_iff] at hp ⊢
  intro i hi
  rw [List.length_append, List.length_singleton] at hi
  rw [List.take_append_of_le_length (by omega)]
  rcases Nat.lt_or_eq_of_le (Nat.le_of_lt_succ hi) with h | h
  · exact hp i h
  · rw [h, List.take_length]
    exact hd

/-- A name joined to a directory that can be walked to is walked to as the directory's parts and
the name. -/
theorem walk_join {v : Volume} {dir : Path} {ks : List String} (hw : v.walk dir = .ok ks)
    (hd : v.nodeAt ks = some .directory) {n : String} (hn : IsName n) :
    v.walk (join dir n) = .ok (ks ++ [n]) := by
  have hne : dir ≠ "" := by
    rintro rfl
    simp [walk] at hw
    cases hw
  have hstart : (join dir n).startsWith "/" = dir.startsWith "/" := by
    unfold join
    rw [if_neg (by simp [hn.not_startsWith])]
    split
    · exact startsWith_slash_append hne n
    · rw [String.append_assoc]; exact startsWith_slash_append hne _
  have hjne : (join dir n).isEmpty = false := by
    unfold join
    rw [if_neg (by simp [hn.not_startsWith])]
    split <;> simp [hne]
  obtain ⟨h₁, h₂⟩ := trace_join (if dir.startsWith "/" then [] else v.cwd) hne hn
  unfold walk at hw ⊢
  rw [if_neg (by simpa using hne)] at hw
  rw [if_neg (by simp [hjne]), hstart]
  rcases ht : trace (if dir.startsWith "/" then [] else v.cwd) dir with ⟨ks', left⟩
  rcases ht' : trace (if dir.startsWith "/" then [] else v.cwd) (join dir n) with ⟨ks'', left'⟩
  rw [ht] at hw h₁ h₂
  rw [ht'] at h₁ h₂
  simp only at hw h₁ h₂ ⊢
  obtain ⟨⟨⟩, hl, hw⟩ := Except.bind_eq_ok.1 hw
  obtain ⟨⟨⟩, hk, hw⟩ := Except.bind_eq_ok.1 hw
  cases hw
  subst h₁
  have hdirs : left'.forM v.directoryOk = .ok () := by
    rw [forM_eq_ok_iff] at hl ⊢
    intro x hx
    rcases h₂ x hx with hx | rfl
    · exact hl x hx
    · simp [directoryOk, hk, hd, bind, Except.bind]
  simp [hdirs, parentsOk_append hk hd, bind, Except.bind, pure, Except.pure]

theorem isFile_join {v : Volume} {dir : Path} {ks : List String} (hw : v.walk dir = .ok ks)
    (hd : v.nodeAt ks = some .directory) {n : String} (hn : IsName n) :
    v.isFile (join dir n) = true ↔ ∃ b, v.nodeAt (ks ++ [n]) = some (.file b) := by
  have hr := resolve_of_walk (walk_join hw hd hn) (endsInSlash_join dir hn)
  simp only [isFile, existsAt, node?, hr]
  rcases v.nodeAt (ks ++ [n]) with _ | _ | _ <;> simp

theorem mem_childNames {v : Volume} {ks : List String} {n : String} :
    n ∈ (v.nodes.map Prod.fst).filterMap (childName ks) ↔ ks ++ [n] ∈ v.nodes.map Prod.fst := by
  constructor
  · intro h
    obtain ⟨k, hk, hc⟩ := List.mem_filterMap.1 h
    rwa [← eq_of_childName hc]
  · intro h
    refine List.mem_filterMap.2 ⟨_, h, ?_⟩
    simp [childName]

theorem mem_keys_of_nodeAt {v : Volume} {k : List String} {nd : Node} (hk : k ≠ [])
    (h : v.nodeAt k = some nd) : k ∈ v.nodes.map Prod.fst := by
  rw [nodeAt_of_ne_nil v hk] at h
  obtain ⟨e, he, -⟩ := Option.map_eq_some_iff.1 h
  exact List.mem_map.2 ⟨e, List.mem_of_find?_eq_some he, by simpa using List.find?_some he⟩

theorem resolve_of_keeps {v v' : Volume} (h : Keeps v v') {p : Path} {ks : List String}
    (hr : v.resolve p = .ok ks) : v'.resolve p = .ok ks := by
  unfold resolve at hr ⊢
  obtain ⟨ks', hw, hr⟩ := Except.bind_eq_ok.1 hr
  rw [walk_of_keeps h hw]
  simp only [bind, Except.bind] at hr ⊢
  split at hr
  · obtain ⟨⟨⟩, hd, hr⟩ := Except.bind_eq_ok.1 hr
    simp [directoryOk_of_keeps h hd, hr]
  · rw [if_neg ‹_›]
    exact hr

theorem resolve_of_isDirectory {v : Volume} {p : Path} (h : v.isDirectory p = true) :
    v.resolve p = .ok (v.locate p) ∧ v.nodeAt (v.locate p) = some .directory := by
  unfold isDirectory existsAt node? at h
  rcases hr : v.resolve p with e | ks
  · simp [hr] at h
  · rw [hr] at h
    obtain rfl := walk_eq_ok (resolve_eq_ok hr).1
    refine ⟨rfl, ?_⟩
    rcases hn : v.nodeAt (v.locate p) with _ | _ | _ <;> simp_all

end Volume

theorem sorted_insertName (n : String) {l : List String} (hl : l.Pairwise (· ≤ ·)) :
    (insertName n l).Pairwise (· ≤ ·) := by
  induction l with
  | nil => simp [insertName]
  | cons m ms ih =>
    rw [List.pairwise_cons] at hl
    unfold insertName
    split
    · rename_i h
      refine List.Pairwise.cons (fun x hx => ?_) (List.pairwise_cons.2 hl)
      rcases List.mem_cons.1 hx with rfl | hx
      · exact h
      · exact le_trans h (hl.1 x hx)
    · rename_i h
      refine List.pairwise_cons.2 ⟨fun x hx => ?_, ih hl.2⟩
      rcases List.mem_cons.1 ((perm_insertName n ms).mem_iff.1 hx) with rfl | hx
      · exact le_of_not_ge h
      · exact hl.1 x hx

theorem sorted_sortNames : (l : List String) → (sortNames l).Pairwise (· ≤ ·)
  | [] => .nil
  | n :: ns => sorted_insertName n (sorted_sortNames ns)

end TurnLedger.Files

namespace TurnLedger.Queue

open Files

/-- The queue files of a directory that can be looked up are its files whose names have the
extension `md`, in strictly increasing order of name. -/
theorem queueFiles_of_directory {v : Volume} (hv : v.WellFormed) {dir : Path} {ks : List String}
    (hr : v.resolve dir = .ok ks) (hd : v.nodeAt ks = some .directory) :
    ∃ ns : List String, queueFiles v dir = .ok (ns.map (join dir)) ∧ ns.Pairwise (· < ·) ∧
      ∀ n, n ∈ ns ↔ IsName n ∧ (∃ b, v.nodeAt (ks ++ [n]) = some (.file b)) ∧
        extension (join dir n) = some "md" := by
  have hw := (Volume.resolve_eq_ok hr).1
  have hnames : (v.nodes.filterMap fun e =>
      if e.1.length == ks.length + 1 && e.1.take ks.length == ks then e.1.getLast? else none) =
      (v.nodes.map Prod.fst).filterMap (Volume.childName ks) := by
    rw [List.filterMap_map]; rfl
  have hlist : v.listDir dir =
      .ok (sortNames ((v.nodes.map Prod.fst).filterMap (Volume.childName ks))) := by
    simp only [Volume.listDir, hr, bind, Except.bind, hd]
    rw [hnames]
  obtain ⟨hnd, hname⟩ := Volume.listDir_eq_ok hv hlist
  refine ⟨(sortNames ((v.nodes.map Prod.fst).filterMap (Volume.childName ks))).filter
    fun n => v.isFile (join dir n) && extension (join dir n) == some "md", ?_, ?_, fun n => ?_⟩
  · simp [queueFiles, hlist, List.filter_map, Function.comp_def]
  · -- sorted and without repeats, so strictly increasing
    exact (((sorted_sortNames _).and hnd).imp fun h => lt_of_le_of_ne h.1 h.2).filter _
  · simp only [List.mem_filter, Bool.and_eq_true, beq_iff_eq]
    constructor
    · rintro ⟨hn, hfile, hext⟩
      exact ⟨hname n hn, (Volume.isFile_join hw hd (hname n hn)).1 hfile, hext⟩
    · rintro ⟨hn, ⟨b, hb⟩, hext⟩
      have hk := Volume.mem_keys_of_nodeAt (by simp) hb
      exact ⟨(perm_sortNames _).mem_iff.2 (Volume.mem_childNames.2 hk),
        (Volume.isFile_join hw hd hn).2 ⟨b, hb⟩, hext⟩

end TurnLedger.Queue
