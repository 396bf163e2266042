import Mathlib.Data.List.Nodup
import TurnLedger.Queue.Pass

/-!
# What file operations do to a volume

Each operation that succeeds is described by its effect on the node at every path: writing
puts a file at the path's parts, removing takes the node away, renaming moves a file. Nothing
changes the working directory, so a path names the same parts before and after. A read that
succeeded shows the file's bytes and lets the same file be removed.
-/

namespace TurnLedger.Files

theorem Except.bind_eq_ok {ε α β : Type} {x : Except ε α} {f : α → Except ε β} {b : β} :
    (x >>= f) = .ok b ↔ ∃ a, x = .ok a ∧ f a = .ok b := by
  cases x <;> simp [bind, Except.bind]

namespace Volume

def erase (v : Volume) (ks : List String) : Volume := { v with nodes := v.nodes.filter (·.1 != ks) }

@[simp] theorem nodeAt_nil (v : Volume) : v.nodeAt [] = some .directory := rfl

theorem nodeAt_of_ne_nil (v : Volume) {k : List String} (hk : k ≠ []) :
    v.nodeAt k = (v.nodes.find? (·.1 == k)).map (·.2) := by
  simp [nodeAt, hk]

@[simp] theorem cwd_put (v : Volume) (ks : List String) (n : Node) : (v.put ks n).cwd = v.cwd := by
  unfold put; split <;> rfl

@[simp] theorem cwd_erase (v : Volume) (ks : List String) : (v.erase ks).cwd = v.cwd := rfl

theorem locate_congr {v w : Volume} (h : v.cwd = w.cwd) (p : Path) : v.locate p = w.locate p := by
  simp [locate, h]

theorem find?_replace_self {nodes : List (List String × Node)} {ks : List String}
    (h : nodes.any (·.1 == ks) = true) (n : Node) :
    (nodes.map fun e => if e.1 == ks then (ks, n) else e).find? (·.1 == ks) = some (ks, n) := by
  induction nodes with
  | nil => simp at h
  | cons e nodes ih =>
    by_cases he : e.1 = ks
    · simp [he]
    · have h' : nodes.any (·.1 == ks) = true := by simpa [he] using h
      have hb : (e.1 == ks) = false := by simpa using he
      simp only [List.map_cons, List.find?_cons, hb, Bool.false_eq_true, if_false]
      exact ih h'

theorem find?_replace_other (nodes : List (List String × Node)) {ks k : List String} (hk : k ≠ ks)
    (n : Node) :
    (nodes.map fun e => if e.1 == ks then (ks, n) else e).find? (·.1 == k) =
      nodes.find? (·.1 == k) := by
  induction nodes with
  | nil => rfl
  | cons e nodes ih =>
    have hkk : (ks == k) = false := by simpa using Ne.symm hk
    by_cases he : e.1 = ks
    · simp only [List.map_cons, List.find?_cons, he, beq_self_eq_true, if_true, hkk]
      exact ih
    · have hb : (e.1 == ks) = false := by simpa using he
      simp only [List.map_cons, List.find?_cons, hb, Bool.false_eq_true, if_false]
      split <;> simp_all

theorem find?_erase_other (nodes : List (List String × Node)) {ks k : List String} (hk : k ≠ ks) :
    (nodes.filter (·.1 != ks)).find? (·.1 == k) = nodes.find? (·.1 == k) := by
  induction nodes with
  | nil => rfl
  | cons e nodes ih =>
    have hkk : (ks == k) = false := by simpa using Ne.symm hk
    by_cases he : e.1 = ks
    · simp [he, hkk, ih]
    · simp [List.find?_cons, he, ih]

theorem nodeAt_put (v : Volume) {ks : List String} (hks : ks ≠ []) (n : Node) (k : List String) :
    (v.put ks n).nodeAt k = if k = ks then some n else v.nodeAt k := by
  by_cases hk : k = []
  · subst hk; simp [Ne.symm hks]
  rw [nodeAt_of_ne_nil _ hk, nodeAt_of_ne_nil _ hk]
  unfold put
  split
  · rename_i hany
    by_cases hkk : k = ks
    · subst hkk; rw [find?_replace_self hany]; simp
    · rw [find?_replace_other _ hkk]; simp [hkk]
  · rename_i hany
    rw [List.find?_append]
    by_cases hkk : k = ks
    · subst hkk
      have hnone : v.nodes.find? (·.1 == k) = none := by
        rw [List.find?_eq_none]
        intro e he hek
        exact hany (List.any_eq_true.2 ⟨e, he, hek⟩)
      simp [hnone]
    · simp [hkk, Ne.symm hkk]

theorem nodeAt_erase (v : Volume) {ks : List String} (hks : ks ≠ []) (k : List String) :
    (v.erase ks).nodeAt k = if k = ks then none else v.nodeAt k := by
  by_cases hk : k = []
  · subst hk; simp [Ne.symm hks]
  rw [nodeAt_of_ne_nil _ hk, nodeAt_of_ne_nil _ hk]
  by_cases hkk : k = ks
  · subst hkk; simp [erase]
  · simp only [erase, find?_erase_other _ hkk, hkk, if_false]

theorem walk_eq_ok {v : Volume} {p : Path} {ks : List String} (h : v.walk p = .ok ks) :
    ks = v.locate p := by
  unfold walk at h
  by_cases hp : p.isEmpty = true
  · simp only [hp, if_true] at h
    obtain ⟨_, h, -⟩ := Except.bind_eq_ok.1 h
    cases h
  · simp only [hp, Bool.false_eq_true, if_false] at h
    obtain ⟨_, -, h⟩ := Except.bind_eq_ok.1 h
    obtain ⟨_, -, h⟩ := Except.bind_eq_ok.1 h
    cases h; rfl

theorem nodeAt_of_directoryOk {v : Volume} {ks : List String} {u : Unit}
    (h : v.directoryOk ks = .ok u) : v.nodeAt ks = some .directory := by
  unfold directoryOk at h
  obtain ⟨_, -, h⟩ := Except.bind_eq_ok.1 h
  split at h
  · assumption
  all_goals cases h

theorem resolve_eq_ok {v : Volume} {p : Path} {ks : List String} (h : v.resolve p = .ok ks) :
    v.walk p = .ok ks ∧ (endsInSlash p = true → v.nodeAt ks = some .directory) := by
  unfold resolve at h
  obtain ⟨ks', hw, h⟩ := Except.bind_eq_ok.1 h
  by_cases he : endsInSlash p = true
  · simp only [he, if_true] at h
    obtain ⟨_, hd, h⟩ := Except.bind_eq_ok.1 h
    cases h
    exact ⟨hw, fun _ => nodeAt_of_directoryOk hd⟩
  · simp only [he, Bool.false_eq_true, if_false] at h
    cases h
    exact ⟨hw, fun h => absurd h he⟩

theorem toUTF8_of_fromUTF8? {b : ByteArray} {s : String} (h : String.fromUTF8? b = some s) :
    s.toUTF8 = b := by
  unfold String.fromUTF8? at h
  split at h
  · cases h; rfl
  · cases h

theorem readBytes_eq_ok {v : Volume} {p : Path} {b : ByteArray} (h : v.readBytes p = .ok b) :
    v.resolve p = .ok (v.locate p) ∧ v.nodeAt (v.locate p) = some (.file b) := by
  unfold readBytes at h
  obtain ⟨ks, hr, h⟩ := Except.bind_eq_ok.1 h
  obtain rfl := walk_eq_ok (resolve_eq_ok hr).1
  refine ⟨hr, ?_⟩
  split at h
  · cases h
  · cases h
  · cases h; assumption

theorem readText_eq_ok {v : Volume} {p : Path} {s : String} (h : v.readText p = .ok s) :
    v.walk p = .ok (v.locate p) ∧ endsInSlash p = false ∧
      v.nodeAt (v.locate p) = some (.file s.toUTF8) := by
  unfold readText at h
  obtain ⟨b, hb, h⟩ := Except.bind_eq_ok.1 h
  obtain ⟨hr, hn⟩ := readBytes_eq_ok hb
  have hs : s.toUTF8 = b := by
    split at h
    · cases h; exact toUTF8_of_fromUTF8? ‹_›
    · cases h
  obtain ⟨hw, hd⟩ := resolve_eq_ok hr
  refine ⟨hw, ?_, hs ▸ hn⟩
  cases he : endsInSlash p
  · rfl
  · have hdir := hd he
    rw [hn] at hdir
    cases hdir

theorem removeFile_of_readText {v : Volume} {p : Path} {s : String} (h : v.readText p = .ok s) :
    v.removeFile p = .ok (v.erase (v.locate p)) := by
  obtain ⟨hw, he, hn⟩ := readText_eq_ok h
  simp [removeFile, hw, hn, he, bind, Except.bind, erase]

theorem writeText_eq_ok {v v' : Volume} {p : Path} {s : String} (h : v.writeText p s = .ok v') :
    v.locate p ≠ [] ∧ v' = v.put (v.locate p) (.file s.toUTF8) := by
  unfold writeText writeBytes at h
  obtain ⟨ks, hw, h⟩ := Except.bind_eq_ok.1 h
  obtain rfl := walk_eq_ok hw
  by_cases he : endsInSlash p = true
  · simp only [he, if_true] at h
    obtain ⟨_, h, -⟩ := Except.bind_eq_ok.1 h
    cases h
  simp only [he, Bool.false_eq_true, if_false] at h
  split at h
  · cases h
  · cases h
    refine ⟨fun h0 => ?_, rfl⟩
    rename_i hdir
    exact hdir (by rw [h0]; rfl)

theorem rename_eq_ok {v v' : Volume} {s t : Path} (h : v.rename s t = .ok v') :
    ∃ b, v.nodeAt (v.locate s) = some (.file b) ∧ v.locate t ≠ [] ∧
      v' = (v.erase (v.locate s)).put (v.locate t) (.file b) := by
  unfold rename at h
  obtain ⟨ks, hs, h⟩ := Except.bind_eq_ok.1 h
  obtain ⟨kt, ht, h⟩ := Except.bind_eq_ok.1 h
  obtain rfl := walk_eq_ok (resolve_eq_ok hs).1
  obtain rfl := walk_eq_ok (resolve_eq_ok ht).1
  split at h
  · cases h
  · cases h
  · cases h
    rename_i b hnode hdir _
    refine ⟨b, hnode, fun h0 => hdir (by rw [h0]; rfl), rfl⟩
  · cases h

end Volume

def IsName (n : String) : Prop := n ≠ "" ∧ n ≠ "." ∧ n ≠ ".." ∧ '/' ∉ n.toList

instance : DecidablePred IsName := fun n =>
  inferInstanceAs (Decidable (n ≠ "" ∧ n ≠ "." ∧ n ≠ ".." ∧ '/' ∉ n.toList))

theorem startsWith_slash_iff (s : String) :
    s.startsWith "/" = true ↔ s.toList.head? = some '/' := by
  simp only [String.startsWith_string_iff]
  cases s.toList <;> simp [eq_comm]

theorem endsWith_slash_iff (s : String) : s.endsWith "/" = true ↔ ∃ d, s = d ++ "/" := by
  have hslice : s.endsWith "/" = s.toSlice.endsWith "/".toSlice := rfl
  rw [hslice, String.Slice.endsWith_slice_iff]
  simp only [String.copy_toSlice]
  constructor
  · rintro ⟨t, ht⟩
    refine ⟨String.ofList t, ?_⟩
    rw [← String.toList_inj]; simp [← ht]
  · rintro ⟨d, rfl⟩
    exact ⟨d.toList, by simp⟩

theorem startsWith_slash_append {a : String} (ha : a ≠ "") (b : String) :
    (a ++ b).startsWith "/" = a.startsWith "/" := by
  have hne : a.toList ≠ [] := by simpa using ha
  obtain ⟨c, cs, hc⟩ := List.exists_cons_of_ne_nil hne
  rw [Bool.eq_iff_iff, startsWith_slash_iff, startsWith_slash_iff]
  simp [hc]

theorem IsName.not_startsWith {n : String} (hn : IsName n) : n.startsWith "/" = false := by
  rw [Bool.eq_false_iff, ne_eq, startsWith_slash_iff]
  intro h
  exact hn.2.2.2 (List.mem_of_mem_head? h)

theorem splitBy_append (a b : String) (c : Char) (hb : c ∉ b.toList) :
    splitBy (a ++ String.singleton c ++ b) c = splitBy a c ++ [b] := by
  simp [splitBy, List.splitOn_append_cons_self, List.splitOn_eq_singleton hb]

theorem fst_traceParts_left (here : List String) (left left' : List (List String))
    (xs : List String) : (traceParts here left xs).1 = (traceParts here left' xs).1 := by
  induction xs generalizing here left left' with
  | nil => rfl
  | cons s rest ih =>
    simp only [traceParts]
    split
    · exact ih ..
    · split
      · exact ih ..
      · exact ih ..

theorem fst_traceParts_append (here : List String) (left : List (List String))
    (xs ys : List String) :
    (traceParts here left (xs ++ ys)).1 = (traceParts (traceParts here left xs).1 [] ys).1 := by
  induction xs generalizing here left with
  | nil => exact fst_traceParts_left ..
  | cons s rest ih =>
    simp only [List.cons_append, traceParts]
    split
    · exact ih ..
    · split
      · exact ih ..
      · rw [ih]
        exact congrArg (fun h => (traceParts h [] ys).1) (fst_traceParts_left _ _ _ rest)

theorem fst_traceParts_name (here : List String) {n : String} (hn : IsName n) :
    (traceParts here [] [n]).1 = here ++ [n] := by
  obtain ⟨h0, h1, h2, -⟩ := hn
  simp [traceParts, h0, h1, h2]

theorem fst_traceParts_empty (here : List String) : (traceParts here [] [""]).1 = here := by
  simp [traceParts]

namespace Volume

theorem locate_eq (v : Volume) (p : Path) :
    v.locate p = (traceParts (if p.startsWith "/" then [] else v.cwd) [] (splitBy p '/')).1 := rfl

theorem locate_append_slash (v : Volume) {a : Path} (ha : a ≠ "") :
    v.locate (a ++ "/") = v.locate a := by
  have hsplit : splitBy (a ++ "/") '/' = splitBy a '/' ++ [""] := by
    simpa using splitBy_append a "" '/' (by simp)
  rw [locate_eq, locate_eq, startsWith_slash_append ha, hsplit, fst_traceParts_append,
    fst_traceParts_empty]

theorem locate_append_slash_name (v : Volume) (a : Path) {m : String} (hm : IsName m) :
    v.locate (a ++ "/" ++ m) = v.locate (a ++ "/") ++ [m] := by
  have hsplit : splitBy (a ++ "/" ++ m) '/' = splitBy a '/' ++ [m] :=
    splitBy_append a m '/' hm.2.2.2
  have hsplit' : splitBy (a ++ "/") '/' = splitBy a '/' ++ [""] := by
    simpa using splitBy_append a "" '/' (by simp)
  have hstart : (a ++ "/" ++ m).startsWith "/" = (a ++ "/").startsWith "/" :=
    startsWith_slash_append (by simp) m
  rw [locate_eq, locate_eq, hstart, hsplit, hsplit', fst_traceParts_append, fst_traceParts_append,
    fst_traceParts_empty, fst_traceParts_name _ hm]

theorem locate_join (v : Volume) (dir : Path) {n : String} (hn : IsName n) :
    v.locate (join dir n) = v.locate dir ++ [n] := by
  unfold join
  rw [if_neg (by simp [hn.not_startsWith])]
  by_cases hd : dir = ""
  · subst hd
    have hsplit : splitBy n '/' = [n] := by
      simp [splitBy, List.splitOn_eq_singleton hn.2.2.2]
    have hsplit₀ : splitBy "" '/' = [""] := rfl
    rw [if_pos (by simp), String.empty_append, locate_eq, locate_eq, hsplit, hsplit₀,
      hn.not_startsWith]
    simp [fst_traceParts_name _ hn, fst_traceParts_empty]
  by_cases he : dir.endsWith "/" = true
  · obtain ⟨d, rfl⟩ := (endsWith_slash_iff _).1 he
    rw [if_pos (by simp [he]), locate_append_slash_name v d hn]
  · rw [if_neg (by simp [hd, he]), locate_append_slash_name v dir hn, locate_append_slash v hd]

end Volume

theorem IsName.append_tmp {n : String} (hn : IsName n) : IsName (n ++ ".tmp") := by
  have hlen : ∀ t : String, n ++ ".tmp" = t → 4 ≤ t.length := by
    rintro t rfl
    have h4 : ".tmp".length = 4 := by decide
    simp [h4]
  refine ⟨fun h => absurd (hlen _ h) (by decide), fun h => absurd (hlen _ h) (by decide),
    fun h => absurd (hlen _ h) (by decide), ?_⟩
  simpa using hn.2.2.2

theorem join_append_tmp (dir : Path) {n : String} (hn : IsName n) :
    join dir n ++ ".tmp" = join dir (n ++ ".tmp") := by
  unfold join
  simp only [hn.not_startsWith, hn.append_tmp.not_startsWith, Bool.false_eq_true, if_false]
  split <;> simp [String.append_assoc]

theorem splitBy_join (dir : Path) {n : String} (hn : IsName n) :
    ∃ pre, splitBy (join dir n) '/' = pre ++ [n] := by
  unfold join
  rw [if_neg (by simp [hn.not_startsWith])]
  split
  · rename_i hd
    by_cases h0 : dir = ""
    · subst h0
      exact ⟨[], by simp [splitBy, List.splitOn_eq_singleton hn.2.2.2]⟩
    · obtain ⟨d, rfl⟩ := (endsWith_slash_iff _).1 (by simpa [h0] using hd)
      exact ⟨splitBy d '/', splitBy_append d n '/' hn.2.2.2⟩
  · exact ⟨splitBy dir '/', splitBy_append dir n '/' hn.2.2.2⟩

theorem fileName_join (dir : Path) {n : String} (hn : IsName n) : fileName (join dir n) = some n := by
  obtain ⟨pre, hpre⟩ := splitBy_join dir hn
  have hkeep : (!n.isEmpty && n != ".") = true := by simp [hn.1, hn.2.1]
  have hlast : (parts (join dir n)).getLast? = some n := by
    unfold parts
    rw [hpre]
    cases pre with
    | nil => rfl
    | cons first rest =>
      rw [List.cons_append]
      simp only [List.filter_append, List.filter_cons, hkeep, if_true, List.filter_nil]
      rw [← List.cons_append, List.getLast?_concat]
  simp [fileName, hlast, hn.1, hn.2.1, hn.2.2.1]

theorem snd_splitAtDot_append_tmp (n : String) : (splitAtDot (n ++ ".tmp")).2 ≠ some "md" := by
  have hsplit : splitBy (n ++ ".tmp") '.' = splitBy n '.' ++ ["tmp"] := by
    simpa [String.append_assoc] using splitBy_append n "tmp" '.' (by decide)
  obtain ⟨x, xs, hx⟩ : ∃ x xs, (splitBy n '.').reverse = x :: xs :=
    List.exists_cons_of_ne_nil (by simp [splitBy, List.splitOn_ne_nil])
  unfold splitAtDot
  rw [hsplit, List.reverse_append, hx]
  simp only [List.reverse_cons, List.reverse_nil, List.nil_append, List.cons_append]
  split <;> simp

theorem extension_join_tmp (dir : Path) {n : String} (hn : IsName n) :
    extension (join dir n ++ ".tmp") ≠ some "md" := by
  rw [join_append_tmp dir hn, extension, fileName_join dir hn.append_tmp]
  exact snd_splitAtDot_append_tmp n

theorem perm_insertName (n : String) (l : List String) : (insertName n l).Perm (n :: l) := by
  induction l with
  | nil => rfl
  | cons m ms ih =>
    unfold insertName
    split
    · rfl
    · exact (ih.cons m).trans (List.Perm.swap n m ms)

theorem perm_sortNames : (l : List String) → (sortNames l).Perm l
  | [] => .nil
  | n :: ns => (perm_insertName n _).trans ((perm_sortNames ns).cons n)

namespace Volume

/-- A volume as a file system holds it: one node at each path, and every part of a path a
name. -/
structure WellFormed (v : Volume) : Prop where
  nodup : (v.nodes.map Prod.fst).Nodup
  names : ∀ e ∈ v.nodes, ∀ n ∈ e.1, IsName n

/-- The name a node at `k` has in the directory at `ks`, when it is directly inside it. -/
def childName (ks k : List String) : Option String :=
  if k.length == ks.length + 1 && k.take ks.length == ks then k.getLast? else none

theorem eq_of_childName {ks k : List String} {n : String} (h : childName ks k = some n) :
    k = ks ++ [n] := by
  unfold childName at h
  split at h
  · rename_i hc
    simp only [Bool.and_eq_true, beq_iff_eq] at hc
    obtain ⟨hlen, htake⟩ := hc
    have hne : k ≠ [] := by rintro rfl; simp at hlen
    have hlast : k.getLast hne = n := by
      rw [List.getLast?_eq_some_getLast hne] at h; exact Option.some.inj h
    have hdrop : k.dropLast = ks := by
      rw [List.dropLast_eq_take, hlen, Nat.add_sub_cancel, htake]
    rw [← List.dropLast_append_getLast hne, hdrop, hlast]
  · cases h

theorem listDir_eq_ok {v : Volume} (hv : v.WellFormed) {dir : Path} {names : List String}
    (h : v.listDir dir = .ok names) : names.Nodup ∧ ∀ n ∈ names, IsName n := by
  unfold listDir at h
  obtain ⟨ks, -, h⟩ := Except.bind_eq_ok.1 h
  split at h
  · cases h
  · cases h
  · cases h
    have hnames : (v.nodes.filterMap fun e =>
        if e.1.length == ks.length + 1 && e.1.take ks.length == ks then e.1.getLast? else none) =
        (v.nodes.map Prod.fst).filterMap (childName ks) := by
      rw [List.filterMap_map]; rfl
    rw [hnames]
    have hperm := perm_sortNames ((v.nodes.map Prod.fst).filterMap (childName ks))
    refine ⟨hperm.nodup_iff.2 (hv.nodup.filterMap fun k k' n hk hk' => ?_), fun n hn => ?_⟩
    · rw [eq_of_childName hk, eq_of_childName hk']
    · obtain ⟨k, hk, hkn⟩ := List.mem_filterMap.1 (hperm.mem_iff.1 hn)
      obtain ⟨e, he, rfl⟩ := List.mem_map.1 hk
      exact hv.names e he n (by rw [eq_of_childName hkn]; simp)

end Volume

end TurnLedger.Files

namespace TurnLedger.Queue

open Files

theorem queueFiles_eq_ok {v : Volume} (hv : v.WellFormed) {dir : Path} {files : List Path}
    (h : queueFiles v dir = .ok files) :
    ∃ ns : List String, files = ns.map (join dir) ∧ ns.Nodup ∧
      ∀ n ∈ ns, IsName n ∧ extension (join dir n) = some "md" := by
  unfold queueFiles at h
  split at h
  · cases h; exact ⟨[], rfl, List.nodup_nil, by simp⟩
  · cases h
  · cases h
    rename_i names hl
    obtain ⟨hnd, hname⟩ := Volume.listDir_eq_ok hv hl
    refine ⟨names.filter fun n => v.isFile (join dir n) && extension (join dir n) == some "md",
      by rw [List.filter_map]; rfl, hnd.filter _, fun n hn => ?_⟩
    obtain ⟨hmem, hp⟩ := List.mem_filter.1 hn
    simp only [Bool.and_eq_true, beq_iff_eq] at hp
    exact ⟨hname n hmem, hp.2⟩

end TurnLedger.Queue
