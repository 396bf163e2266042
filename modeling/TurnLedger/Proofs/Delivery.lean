import TurnLedger.Proofs.QueueListing
import TurnLedger.Proofs.DoubleReread
import TurnLedger.Proofs.IngestNormalForm

/-!
# Queued records are delivered

Records queued one after another land in the files of their days, each holding the day's title
and the blocks of its records in queueing order (`Queued`, kept by every `enqueue`). A pass with
a store that stores every record and a token that never fires deletes every file it lists,
asking the store for each record of each file in turn (`replayFiles_of_accepting`). So a pass
after queueing into a directory with no queue file asks the store once for every queued record,
day file by day file in order of name and within one in queueing order, and leaves no queue
file (`flush_delivers_queued_records`). What it asks for is the record as its JSON text reads
back, which is the record queued but for its cost: that is what the written text of the cost
reads back as (`Record.reread`).
-/

namespace TurnLedger.Files.Volume

theorem readText_erase {v : Volume} {p : Path} {s : String} (h : v.readText p = .ok s)
    {k : List String} (hk : k ≠ []) (hkd : v.nodeAt k ≠ some .directory) (hne : v.locate p ≠ k) :
    (v.erase k).readText p = .ok s := by
  obtain ⟨hw, he, hn⟩ := readText_eq_ok h
  refine readText_of_walk (walk_of_keeps (keeps_erase v hk hkd) hw) he ?_
  rw [nodeAt_erase _ hk, if_neg hne]
  exact hn

theorem isDirectory_of_keeps {v v' : Volume} (h : Keeps v v') {p : Path}
    (hd : v.isDirectory p = true) : v'.isDirectory p = true := by
  obtain ⟨hr, hn⟩ := resolve_of_isDirectory hd
  simp [isDirectory, existsAt, node?, resolve_of_keeps h hr, h.dirs _ hn]

theorem createDirAll_of_isDirectory {v : Volume} {p : Path} (h : v.isDirectory p = true) :
    v.createDirAll p = .ok v := by
  obtain ⟨hr, hd⟩ := resolve_of_isDirectory h
  have hw := (resolve_eq_ok hr).1
  have hne : p.isEmpty = false := by
    cases hp : p.isEmpty
    · rfl
    · rw [String.isEmpty_iff.1 hp, resolve_empty] at hr
      cases hr
  have hc : v.createDir p = .error .alreadyExists := by
    simp [createDir, hw, hd, bind, Except.bind]
  unfold createDirAll createDirAllUpTo
  simp [hne, hc, h]

end TurnLedger.Files.Volume

namespace TurnLedger.Activity

/-- The record a reader finds in a record's JSON text: the same record, with for its cost what
the text of the cost reads back as. -/
def Record.reread (r : Record) : Record :=
  { r with costEstimate := (costReread r.costEstimate).getD r.costEstimate }

theorem Record.ofJsonText_toJson_reread {r : Record} (hr : r.Storable)
    (hfin : r.costEstimate.isFinite = true) : Record.ofJsonText r.toJson = .ok r.reread := by
  obtain ⟨y, hy, h⟩ := Record.ofJsonText_toJson_ok hr hfin
  rw [h, Record.reread, hy]
  rfl

theorem Record.Filled.reread {r : Record} (h : r.Filled) : r.reread.Filled :=
  ⟨h.projectTag, h.channel, h.userId, h.model, h.thinking, h.status, h.createdAt⟩

end TurnLedger.Activity

namespace TurnLedger.Queue

open Files Activity

/-- Queues the records in order, each at its own time, stopping at the first failure. -/
def enqueueAll (v : Volume) (dir : Path) : List (Record × Time.Instant) → Except QueueFault Volume
  | [] => .ok v
  | (r, t) :: rest => do
    let (v, _) ← enqueue v dir r t
    enqueueAll v dir rest

/-- The blocks that queueing `qs` writes into the file of the day `d`, in order. -/
def dayBlocks (d : String) (qs : List (Record × Time.Instant)) : String :=
  String.join ((qs.filter (·.2.dateText == d)).map fun q =>
    entryBlock q.2.wholeSecondsText q.1.toJson)

theorem dayBlocks_append (d : String) (qs : List (Record × Time.Instant))
    (q : Record × Time.Instant) :
    dayBlocks d (qs ++ [q]) = dayBlocks d qs ++
      if q.2.dateText = d then entryBlock q.2.wholeSecondsText q.1.toJson else "" := by
  by_cases h : q.2.dateText = d <;> simp [dayBlocks, List.filter_append, h, String.join_append]

theorem dayBlocks_of_forall_ne {d : String} {qs : List (Record × Time.Instant)}
    (h : ∀ q ∈ qs, q.2.dateText ≠ d) : dayBlocks d qs = "" := by
  rw [dayBlocks, List.filter_eq_nil_iff.2 fun q hq => by simpa using h q hq]
  rfl

theorem entriesOf_append_blocks :
    ∀ (qs : List (Record × Time.Instant)) {d : String}, Settled d.toList →
      entriesOf (d ++ String.join (qs.map fun q => entryBlock q.2.wholeSecondsText q.1.toJson)) =
        entriesOf d ++ qs.map fun q => entryOf q.1.toJson
  | [], d, _ => by simp
  | q :: qs, d, hd => by
    obtain ⟨he, hs⟩ := entriesOf_append_entryBlock hd (Time.Instant.stamp_wholeSecondsText q.2) q.1
    rw [List.map_cons, String.join_cons, ← String.append_assoc, entriesOf_append_blocks qs hs, he]
    simp

/-- The entries of a day file that queueing wrote: one per record of the day, in order. -/
theorem entriesOf_dayText (t : Time.Instant) (qs : List (Record × Time.Instant)) :
    entriesOf (titleBlock t.dateText ++ dayBlocks t.dateText qs) =
      (qs.filter (·.2.dateText == t.dateText)).map fun q => entryOf q.1.toJson := by
  have hL : '\n' ∉ t.dateText.toList := Time.not_mem_dateText (by decide) (by decide) (by decide)
  rw [dayBlocks, entriesOf_append_blocks _ (settled_titleBlock hL), entriesOf_titleBlock hL,
    List.nil_append]

theorem locate_dayFile_eq_iff (v : Volume) (dir : Path) (t t' : Time.Instant) :
    v.locate (dayFile dir t') = v.locate (dayFile dir t) ↔ t'.dateText = t.dateText := by
  rw [locate_dayFile, locate_dayFile, List.append_cancel_left_eq, List.cons.injEq,
    String.append_left_inj]
  simp

/-- What queueing the records `qs` into `dir` has left on a volume that was `v₀`: the file of
each of their days holds the day's title and the blocks of that day's records in order, and
elsewhere only directories were added where nothing was. -/
structure Queued (v₀ : Volume) (dir : Path) (qs : List (Record × Time.Instant)) (v : Volume) :
    Prop where
  wellFormed : v.WellFormed
  keeps : Volume.Keeps v₀ v
  days : ∀ q ∈ qs, v.nodeAt (v₀.locate (dayFile dir q.2)) =
    some (.file (titleBlock q.2.dateText ++ dayBlocks q.2.dateText qs).toUTF8)
  frame : ∀ k, (∀ q ∈ qs, k ≠ v₀.locate (dayFile dir q.2)) →
    v.nodeAt k = v₀.nodeAt k ∨ v₀.nodeAt k = none ∧ v.nodeAt k = some .directory

theorem Queued.start {v₀ : Volume} (hv : v₀.WellFormed) (dir : Path) : Queued v₀ dir [] v₀ :=
  ⟨hv, .refl v₀, by simp, fun _ _ => .inl rfl⟩

/-- Before a record of the day of `t` is queued, the day's file holds the day's text so far; where
nothing is there, as on a new day when no day file was there at first, queueing starts from the
title alone. -/
theorem Queued.old_dayText {v₀ v : Volume} {dir : Path} {qs : List (Record × Time.Instant)}
    (h : Queued v₀ dir qs v)
    (hfree : ∀ t b, v₀.nodeAt (v₀.locate (dayFile dir t)) ≠ some (.file b)) {t : Time.Instant} {old : ByteArray}
    (hold : v.nodeAt (v₀.locate (dayFile dir t)) = some (.file old) ∨
      v.nodeAt (v₀.locate (dayFile dir t)) = none ∧ old = (titleBlock t.dateText).toUTF8) :
    old = (titleBlock t.dateText ++ dayBlocks t.dateText qs).toUTF8 := by
  by_cases hday : ∃ q ∈ qs, q.2.dateText = t.dateText
  · obtain ⟨q, hq, hqt⟩ := hday
    have hq' := h.days q hq
    rw [(locate_dayFile_eq_iff _ _ _ _).2 hqt, hqt] at hq'
    rcases hold with h₁ | ⟨h₁, -⟩ <;> rw [hq'] at h₁ <;> cases h₁
    rfl
  · -- a new day: nothing queued for it, and its file was neither there at first nor made since
    simp only [not_exists, not_and] at hday
    rw [dayBlocks_of_forall_ne hday, String.append_empty]
    have hne : ∀ q ∈ qs, v₀.locate (dayFile dir t) ≠ v₀.locate (dayFile dir q.2) :=
      fun q hq he' => hday q hq ((locate_dayFile_eq_iff _ _ _ _).1 he'.symm)
    rcases hold with h₁ | ⟨-, rfl⟩
    · rcases h.frame _ hne with h₂ | ⟨-, h₂⟩ <;> rw [h₂] at h₁
      · exact absurd h₁ (hfree t old)
      · cases h₁
    · rfl

section Queueing

variable {v₀ : Volume} {dir : Path} (hc : ∀ n ∈ v₀.cwd, IsName n)
  (hfree : ∀ t b, v₀.nodeAt (v₀.locate (dayFile dir t)) ≠ some (.file b))
include hc hfree

/-- Queueing one more record, on a volume with no day file at first, keeps the invariant: the
record's day file gains its block, after its title when the day is new. -/
theorem Queued.enqueue {qs : List (Record × Time.Instant)} {v : Volume} (h : Queued v₀ dir qs v)
    {r : Record} {t : Time.Instant} {v' : Volume} {path : Path}
    (he : enqueue v dir r t = .ok (v', path)) : Queued v₀ dir (qs ++ [(r, t)]) v' := by
  have hloc : v.locate = v₀.locate := funext (Volume.locate_congr h.keeps.cwd)
  obtain ⟨rfl, hwf, hkeep, hframe, -, old, hold, hnew⟩ :=
    enqueue_eq_ok h.wellFormed (h.keeps.cwd ▸ hc) he
  rw [hloc] at hold hnew hframe
  have hold' := h.old_dayText hfree hold
  have hsame : ∀ q : Record × Time.Instant, q.2.dateText = t.dateText →
      v'.nodeAt (v₀.locate (dayFile dir q.2)) = some (.file (titleBlock q.2.dateText ++ dayBlocks q.2.dateText (qs ++ [(r, t)])).toUTF8) := by
    intro q hqt
    rw [(locate_dayFile_eq_iff _ _ _ _).2 hqt, hnew, hold', hqt, dayBlocks_append, if_pos rfl,
      toUTF8_append, toUTF8_append, toUTF8_append, ByteArray.append_assoc]
  refine ⟨hwf, h.keeps.trans hkeep, fun q hq => ?_, fun k hk => ?_⟩
  · rcases List.mem_append.1 hq with hq | hq
    · by_cases hqt : q.2.dateText = t.dateText
      · exact hsame q hqt
      · -- another day's file is untouched
        rcases hframe _ ((locate_dayFile_eq_iff _ _ _ _).not.2 hqt) with h₁ | ⟨h₁, -⟩
        · rw [h₁, h.days q hq, dayBlocks_append, if_neg (Ne.symm hqt), String.append_empty]
        · rw [h.days q hq] at h₁
          cases h₁
    · rw [List.mem_singleton.1 hq]
      exact hsame _ rfl
  · exact Volume.grown_trans (h.frame k fun q hq => hk q (List.mem_append_left _ hq))
      (hframe k (hk (r, t) (by simp)))

/-- Queueing the records `rest` after `qs` keeps the invariant, over the records of both. -/
theorem Queued.enqueueAll :
    ∀ (rest qs : List (Record × Time.Instant)) {v v' : Volume}, Queued v₀ dir qs v →
      enqueueAll v dir rest = .ok v' → Queued v₀ dir (qs ++ rest) v'
  | [], qs, v, v', h, he => by
    cases he
    simpa using h
  | (r, t) :: rest, qs, v, v', h, he => by
    obtain ⟨⟨v₁, path⟩, h₁, he⟩ := Except.bind_eq_ok.1 he
    simpa using Queued.enqueueAll rest (qs ++ [(r, t)]) (h.enqueue hc hfree h₁) he

end Queueing

theorem zip_of_forall_true {α : Type} :
    ∀ (l : List α) (bs : List Bool), bs.length = l.length → (∀ b ∈ bs, b = true) →
      l.zip bs = l.map (·, true)
  | [], [], _, _ => rfl
  | a :: l, b :: bs, hlen, hb => by
    rw [List.forall_mem_cons] at hb
    rw [List.zip_cons_cons, List.map_cons, hb.1,
      zip_of_forall_true l bs (by simpa using hlen) hb.2]

section Accepting

variable {σ : Type} (W : World σ)

/-- A file whose entries are all valid, replayed with a store that stores every record, is
deleted: each record was stored with the defaults of its clock reading. -/
theorem drainFile_of_accepting (hW : W.Isolated) (hstore : ∀ w r, (W.create w r).1.isOk = true)
    (w : σ) (tr : Transcript) (rep : Report) {path : Path} {body : String}
    (hread : (W.volume w).readText path = .ok body)
    (hvalid : ∀ e ∈ entriesOf body, e.isValid = true) :
    ∃ (w' : σ) (ts : List Time.Instant),
      (Pass.drainFile W.transcribed ⟨(w, tr), rep⟩ path).2 = none ∧
      (Pass.drainFile W.transcribed ⟨(w, tr), rep⟩ path).1.world =
        (W.withVolume w' ((W.volume w).erase ((W.volume w).locate path)),
          { readings := tr.readings ++ ts,
            calls := tr.calls ++ ((recordsOf (entriesOf body)).zipWith Record.withDefaults ts).map
              (·, true) }) ∧
      ts.length = (recordsOf (entriesOf body)).length := by
  obtain ⟨w', ts, answers, hts, hans, hv, hacc, heq⟩ :=
    replayEntries_eq W hW (entriesOf body) w tr rep []
  have hkept : keptOf (entriesOf body) answers = [] :=
    (keptOf_eq_nil_iff _ _ hans).2 ⟨hvalid, hacc hstore⟩
  have hcalls : callsOf (recordsOf (entriesOf body)) ts answers =
      ((recordsOf (entriesOf body)).zipWith Record.withDefaults ts).map (·, true) :=
    zip_of_forall_true _ _ (by simp [hts, hans]) (hacc hstore)
  refine ⟨w', ts, ?_, ?_, hts⟩ <;> unfold Pass.drainFile <;>
    simp only [World.transcribed_volume, hread, heq, List.reverse_nil, List.nil_append, hkept, hv,
      settleFile, List.isEmpty_nil, if_true, removeDrained_of_readText hread, Except.map,
      World.transcribed_withVolume, hcalls]

/-- Files whose entries are all valid, replayed in order with a store that stores every record
and a token that never fires, are all deleted: the pass stores every record of each file in
turn, with the defaults of its clock reading, and changes nothing else. -/
theorem replayFiles_of_accepting (hW : W.Isolated) (hstore : ∀ w r, (W.create w r).1.isOk = true)
    (hgo : ∀ w, (W.cancelled w).1 = false) :
    ∀ (fs : List (Path × String)) (w : σ) (tr : Transcript) (rep : Report),
      (W.volume w).WellFormed → Apart (W.volume w) (fs.map (·.1)) →
      (∀ f ∈ fs, (W.volume w).readText f.1 = .ok f.2 ∧
        ∀ e ∈ entriesOf f.2, e.isValid = true) →
      ∃ (q : Pass (σ × Transcript)) (ts : List Time.Instant),
        Pass.replayFiles W.transcribed ⟨(w, tr), rep⟩ (fs.map (·.1)) = (.ok q, q) ∧
        ts.length = (fs.flatMap fun f => recordsOf (entriesOf f.2)).length ∧
        q.world.2 = { readings := tr.readings ++ ts,
                      calls := tr.calls ++ (((fs.flatMap fun f => recordsOf (entriesOf f.2)).zipWith
                        Record.withDefaults ts).map (·, true)) } ∧
        (W.volume q.world.1).WellFormed ∧ (W.volume q.world.1).cwd = (W.volume w).cwd ∧
        ∀ k, (W.volume q.world.1).nodeAt k =
          if k ∈ fs.map fun f => (W.volume w).locate f.1 then none else (W.volume w).nodeAt k
  | [], w, tr, rep, hwf, _, _ =>
    ⟨⟨(w, tr), rep⟩, [], rfl, rfl, by simp, hwf, rfl, fun k => by simp⟩
  | f :: fs, w, tr, rep, hwf, hapart, hfiles => by
    obtain ⟨hread, hvalid⟩ := hfiles f (.head _)
    rcases hcw : W.cancelled w with ⟨stop, w₁⟩
    have hstop : stop = false := by simpa [hcw] using hgo w
    have hv₁ : W.volume w₁ = W.volume w := by simpa [hcw] using hW.volume_cancelled w
    obtain ⟨w', ts₁, hnone, hworld, hts₁⟩ :=
      drainFile_of_accepting W hW hstore w₁ tr rep (hv₁ ▸ hread) hvalid
    rcases hd : Pass.drainFile W.transcribed ⟨(w₁, tr), rep⟩ f.1 with
      ⟨⟨⟨w₂, tr₂⟩, rep₂⟩, _ | e⟩
    swap
    · rw [hd] at hnone
      cases hnone
    rw [hd] at hworld
    obtain ⟨rfl, rfl⟩ := Prod.mk.inj hworld
    -- the first file is erased; the others read as before
    have hnode := (Volume.readText_eq_ok hread).2.2
    have hk : (W.volume w).locate f.1 ≠ [] := fun h0 => by
      rw [h0, Volume.nodeAt_nil] at hnode
      cases hnode
    have hkd : (W.volume w).nodeAt ((W.volume w).locate f.1) ≠ some .directory := by
      rw [hnode]
      simp
    have hvol : W.volume (W.withVolume w' ((W.volume w₁).erase ((W.volume w₁).locate f.1))) =
        (W.volume w).erase ((W.volume w).locate f.1) := by
      rw [hW.volume_withVolume, hv₁]
    have hcwd₁ : ((W.volume w).erase ((W.volume w).locate f.1)).cwd = (W.volume w).cwd := rfl
    obtain ⟨q, ts₂, hq, hts₂, htr, hwf', hcwd, hnodes⟩ :=
      replayFiles_of_accepting hW hstore hgo fs _ _ rep₂
        (by rw [hvol]; exact hwf.erase _) (by rw [hvol]; exact hapart.tail.congr hcwd₁)
        (fun g hg => by
          rw [hvol]
          obtain ⟨hg₁, hg₂⟩ := hfiles g (.tail _ hg)
          exact ⟨Volume.readText_erase hg₁ hk hkd
            (hapart.head_ne (List.mem_map_of_mem hg)).1, hg₂⟩)
    refine ⟨q, ts₁ ++ ts₂, ?_, ?_, ?_, hwf', ?_, fun k => ?_⟩
    · rw [List.map_cons, Pass.replayFiles]
      simp only [World.transcribed_cancelled, hcw, hstop, Bool.false_eq_true, if_false, hd]
      exact hq
    · simp [hts₁, hts₂]
    · rw [htr, List.flatMap_cons, List.zipWith_append hts₁.symm]
      simp
    · rw [hcwd, hvol, hcwd₁]
    · rw [hnodes, hvol, Volume.nodeAt_erase _ hk]
      have hloc : ((W.volume w).erase ((W.volume w).locate f.1)).locate = (W.volume w).locate :=
        funext (Volume.locate_congr hcwd₁)
      rw [hloc]
      simp only [List.map_cons, List.mem_cons]
      by_cases h₁ : k = (W.volume w).locate f.1
      · simp [h₁]
      · simp only [h₁, false_or, if_false]

end Accepting

/-- A directory with no queue file has no file with a queue file's name directly in it. -/
theorem nodeAt_ne_file_of_queueFiles_nil {v : Volume} (hv : v.WellFormed) {dir : Path}
    (hdir : v.isDirectory dir = true) (hempty : queueFiles v dir = .ok []) {n : String}
    (hn : IsName n) (hext : extension (join dir n) = some "md") (b : ByteArray) :
    v.nodeAt (v.locate dir ++ [n]) ≠ some (.file b) := by
  obtain ⟨hr, hd⟩ := Volume.resolve_of_isDirectory hdir
  obtain ⟨ns, hq, -, hns⟩ := queueFiles_of_directory hv hr hd
  have hnil : ns = [] := by
    rw [hempty, Except.ok.injEq] at hq
    exact List.map_eq_nil_iff.1 hq.symm
  intro hb
  simpa [hnil] using (hns n).2 ⟨hn, ⟨b, hb⟩, hext⟩

theorem queued_of_enqueueAll {v₀ : Volume} (hv : v₀.WellFormed) (hc : ∀ n ∈ v₀.cwd, IsName n)
    {dir : Path} (hdir : v₀.isDirectory dir = true) (hempty : queueFiles v₀ dir = .ok [])
    {qs : List (Record × Time.Instant)} {v : Volume} (henq : enqueueAll v₀ dir qs = .ok v) :
    Queued v₀ dir qs v := by
  have hfree : ∀ t b, v₀.nodeAt (v₀.locate (dayFile dir t)) ≠ some (.file b) := fun t b => by
    rw [locate_dayFile]
    exact nodeAt_ne_file_of_queueFiles_nil hv hdir hempty (isName_dayName t) (extension_dayFile dir t) b
  simpa using Queued.enqueueAll hc hfree qs [] (Queued.start hv dir) henq

section Listing

variable {v₀ v : Volume} {dir : Path} {qs : List (Record × Time.Instant)}

/-- After queueing into a directory with no queue file, its queue files are the day files of
the records, in increasing order of name. -/
theorem Queued.queueFiles (h : Queued v₀ dir qs v) (hv : v₀.WellFormed)
    (hdir : v₀.isDirectory dir = true) (hempty : queueFiles v₀ dir = .ok []) :
    ∃ names : List String, queueFiles v dir = .ok (names.map (join dir)) ∧
      names.Pairwise (· < ·) ∧ ∀ n, n ∈ names ↔ ∃ q ∈ qs, q.2.dateText ++ ".md" = n := by
  obtain ⟨hr, hd⟩ := Volume.resolve_of_isDirectory hdir
  obtain ⟨names, hlist, hsorted, hnames⟩ :=
    queueFiles_of_directory h.wellFormed (Volume.resolve_of_keeps h.keeps hr) (h.keeps.dirs _ hd)
  refine ⟨names, hlist, hsorted, fun n => (hnames n).trans ⟨?_, ?_⟩⟩
  · rintro ⟨hn, ⟨b, hb⟩, hext⟩
    by_contra hno
    simp only [not_exists, not_and] at hno
    -- a file of another name was there before queueing, yet no queue file was
    have hk : ∀ q ∈ qs, v₀.locate dir ++ [n] ≠ v₀.locate (dayFile dir q.2) := fun q hq he => by
      rw [locate_dayFile, List.append_cancel_left_eq, List.cons.injEq] at he
      exact hno q hq he.1.symm
    rcases h.frame _ hk with h₁ | ⟨-, h₁⟩ <;> rw [h₁] at hb
    · exact nodeAt_ne_file_of_queueFiles_nil hv hdir hempty hn hext b hb
    · cases hb
  · rintro ⟨q, hq, rfl⟩
    refine ⟨isName_dayName q.2,
      ⟨(titleBlock q.2.dateText ++ dayBlocks q.2.dateText qs).toUTF8, ?_⟩, extension_dayFile dir q.2⟩
    rw [← locate_dayFile]
    exact h.days q hq

theorem Queued.readText_dayFile (h : Queued v₀ dir qs v) (hdir : v₀.isDirectory dir = true)
    {q : Record × Time.Instant} (hq : q ∈ qs) :
    v.readText (dayFile dir q.2) = .ok (titleBlock q.2.dateText ++ dayBlocks q.2.dateText qs) := by
  obtain ⟨hr, hd⟩ := Volume.resolve_of_isDirectory hdir
  have hw := Volume.walk_join (Volume.resolve_eq_ok (Volume.resolve_of_keeps h.keeps hr)).1
    (h.keeps.dirs _ hd) (isName_dayName q.2)
  refine Volume.readText_of_walk hw (endsInSlash_join dir (isName_dayName q.2)) ?_
  rw [← locate_dayFile]
  exact h.days q hq

end Listing

/-- The records a pass finds in a day file that queueing wrote: those of the day, in order,
each as its JSON text reads back. -/
theorem recordsOf_dayText (t : Time.Instant) {qs : List (Record × Time.Instant)}
    (hqs : ∀ q ∈ qs, q.1.Storable ∧ q.1.costEstimate.isFinite = true) :
    (∀ e ∈ entriesOf (titleBlock t.dateText ++ dayBlocks t.dateText qs), e.isValid = true) ∧
      recordsOf (entriesOf (titleBlock t.dateText ++ dayBlocks t.dateText qs)) =
        (qs.filter (·.2.dateText == t.dateText)).map (·.1.reread) := by
  have hread : ∀ q ∈ qs.filter (·.2.dateText == t.dateText),
      (entryOf q.1.toJson).record = some q.1.reread := fun q hq => by
    obtain ⟨hs, hf⟩ := hqs q (List.mem_of_mem_filter hq)
    simp [Record.ofJsonText_toJson_reread hs hf, Except.toOption]
  rw [entriesOf_dayText, recordsOf, List.filterMap_map]
  refine ⟨fun e he => ?_, ?_⟩
  · obtain ⟨q, hq, rfl⟩ := List.mem_map.1 he
    rw [Entry.isValid, hread q hq]
    rfl
  · rw [Function.comp_def,
      List.filterMap_congr (g := some ∘ fun q : Record × Time.Instant => q.1.reread) hread,
      List.filterMap_eq_map]

/-- The files listed after queueing, each with its day's text: each reads as that text, all of
whose entries are valid, and their records, file after file, are the records of each day in
queueing order, as they read back. -/
theorem Queued.dayTexts {v₀ v : Volume} {dir : Path} {qs : List (Record × Time.Instant)}
    (h : Queued v₀ dir qs v) (hdir : v₀.isDirectory dir = true)
    (hqs : ∀ q ∈ qs, q.1.Storable ∧ q.1.costEstimate.isFinite = true) {names : List String}
    (hnames : ∀ n, n ∈ names ↔ ∃ q ∈ qs, q.2.dateText ++ ".md" = n) :
    ∃ fs : List (Path × String), fs.map (·.1) = names.map (join dir) ∧
      (∀ f ∈ fs, v.readText f.1 = .ok f.2 ∧ ∀ e ∈ entriesOf f.2, e.isValid = true) ∧
      (fs.flatMap fun f => recordsOf (entriesOf f.2)) =
        names.flatMap fun n => (qs.filter (·.2.dateText ++ ".md" == n)).map (·.1.reread) := by
  -- a listed name is a day's, and its stem gives the day back
  let body : String → String := fun n =>
    titleBlock ((fileStem (join dir n)).getD "") ++ dayBlocks ((fileStem (join dir n)).getD "") qs
  have hbody : ∀ q : Record × Time.Instant, body (q.2.dateText ++ ".md") =
      titleBlock q.2.dateText ++ dayBlocks q.2.dateText qs := fun q => by
    simp only [body]
    rw [show join dir (q.2.dateText ++ ".md") = dayFile dir q.2 from rfl, fileStem_dayFile]
    rfl
  have hkey : ∀ q : Record × Time.Instant,
      (qs.filter (·.2.dateText == q.2.dateText)) =
        qs.filter (·.2.dateText ++ ".md" == q.2.dateText ++ ".md") :=
    fun q => List.filter_congr fun x _ => by simp
  refine ⟨names.map fun n => (join dir n, body n), by simp, fun f hf => ?_, ?_⟩
  · obtain ⟨n, hn, rfl⟩ := List.mem_map.1 hf
    obtain ⟨q, hq, rfl⟩ := (hnames n).1 hn
    rw [hbody]
    exact ⟨h.readText_dayFile hdir hq, (recordsOf_dayText q.2 hqs).1⟩
  · rw [List.flatMap_map]
    refine List.flatMap_congr fun n hn => ?_
    obtain ⟨q, -, rfl⟩ := (hnames n).1 hn
    rw [hbody, (recordsOf_dayText q.2 hqs).2, hkey q]

/-- Erasing every queue file of a directory leaves it with none. -/
theorem queueFiles_eq_nil_of_erased {v v' : Volume} (hv : v.WellFormed) (hv' : v'.WellFormed)
    {dir : Path} (hdir : v.isDirectory dir = true) {files : List Path}
    (hlist : queueFiles v dir = .ok files) (hcwd : v'.cwd = v.cwd)
    (hnodes : ∀ k, v'.nodeAt k = if k ∈ files.map v.locate then none else v.nodeAt k) :
    queueFiles v' dir = .ok [] := by
  obtain ⟨hr, hd⟩ := Volume.resolve_of_isDirectory hdir
  obtain ⟨ns, hq, -, hns⟩ := queueFiles_of_directory hv hr hd
  rw [hlist, Except.ok.injEq] at hq
  subst hq
  have hkeys : ∀ k, k ∈ (ns.map (join dir)).map v.locate ↔ ∃ n ∈ ns, k = v.locate dir ++ [n] := by
    intro k
    simp only [List.map_map, List.mem_map, Function.comp_apply]
    refine exists_congr fun n => and_congr_right fun hn => ?_
    rw [Volume.locate_join v dir ((hns n).1 hn).1, eq_comm]
  -- directories stay, as only files were erased
  have hkeep : Volume.Keeps v v' := by
    refine ⟨hcwd, fun k hk => ?_⟩
    rw [hnodes, if_neg]
    · exact hk
    · rw [hkeys]
      rintro ⟨n, hn, rfl⟩
      obtain ⟨-, ⟨b, hb⟩, -⟩ := (hns n).1 hn
      rw [hb] at hk
      cases hk
  have hloc : v'.locate = v.locate := funext (Volume.locate_congr hcwd)
  obtain ⟨ns', hq', -, hns'⟩ :=
    queueFiles_of_directory hv' (Volume.resolve_of_keeps hkeep hr) (hkeep.dirs _ hd)
  suffices hnil : ns' = [] by rw [hq', hnil]; rfl
  refine List.eq_nil_iff_forall_not_mem.2 fun n hn => ?_
  obtain ⟨hname, ⟨b, hb⟩, hext⟩ := (hns' n).1 hn
  rw [hnodes] at hb
  split at hb
  · cases hb
  · rename_i hout
    exact hout ((hkeys _).2 ⟨n, (hns n).2 ⟨hname, ⟨b, hb⟩, hext⟩, rfl⟩)

theorem length_flatMap_filter {α β : Type} [DecidableEq β] (key : α → β) {ks : List β}
    (hks : ks.Nodup) : ∀ l : List α, (∀ a ∈ l, key a ∈ ks) →
      (ks.flatMap fun k => l.filter (key · == k)).length = l.length
  | [], _ => by simp
  | a :: l, hl => by
    have hrest := length_flatMap_filter key hks l fun b hb => hl b (.tail _ hb)
    obtain ⟨ks₁, ks₂, rfl⟩ := List.append_of_mem (hl a (.head _))
    have hout : key a ∉ ks₁ ++ ks₂ := by
      have := hks
      rw [List.nodup_append, List.nodup_cons] at this
      simp only [List.mem_append, not_or]
      exact ⟨fun h => this.2.2 _ h _ (.head _) rfl, this.2.1.1⟩
    -- only the key of `a` takes `a` in
    have hsame : ∀ k ∈ ks₁ ++ ks₂, (a :: l).filter (key · == k) = l.filter (key · == k) :=
      fun k hk => by
        rw [List.filter_cons, if_neg]
        intro he
        rw [beq_iff_eq] at he
        exact hout (he ▸ hk)
    rw [List.flatMap_append, List.flatMap_cons,
      List.flatMap_congr fun k hk => hsame k (List.mem_append_left _ hk),
      List.flatMap_congr fun k hk => hsame k (List.mem_append_right _ hk)]
    simp only [List.flatMap_append, List.flatMap_cons, List.length_append] at hrest ⊢
    simp only [List.filter_cons, beq_self_eq_true, if_true, List.length_cons, List.length_cons]
    omega

/-- Records queued one after another into a directory that holds no queue file, then one replay
pass, with a store that stores every record and a token that never fires. Each record's JSON
text reads back as the record with its cost read back from its text. The pass succeeds. The
day files it lists are those of the records, in increasing order of name, and it asks the
store once for each queued record: day file by day file, and within one in the order of
queueing, each the read-back record with the defaults of a clock reading, which is that record
itself when it carries its defaults and a creation time. Afterwards no queue file is left. -/
theorem flush_delivers_queued_records {σ : Type} (W : World σ) (hW : W.Isolated)
    (hstore : ∀ w r, (W.create w r).1.isOk = true) (hgo : ∀ w, (W.cancelled w).1 = false)
    {v₀ : Volume} (hv : v₀.WellFormed) (hc : ∀ n ∈ v₀.cwd, IsName n) {dir : Path}
    (hdir : v₀.isDirectory dir = true) (hempty : queueFiles v₀ dir = .ok [])
    {qs : List (Record × Time.Instant)}
    (hqs : ∀ q ∈ qs, q.1.Storable ∧ q.1.costEstimate.isFinite = true)
    {v : Volume} (henq : enqueueAll v₀ dir qs = .ok v) {w : σ} (hw : W.volume w = v) :
    (∀ q ∈ qs, Record.ofJsonText q.1.toJson = .ok q.1.reread ∧
      (q.1.Filled → ∀ t, q.1.reread.withDefaults t = q.1.reread)) ∧
    ∃ (report : Report) (s : σ × Transcript) (names : List String),
      flushIn W.transcribed dir (w, {}) = (.ok report, s) ∧
      names.Pairwise (· < ·) ∧ (∀ n, n ∈ names ↔ ∃ q ∈ qs, q.2.dateText ++ ".md" = n) ∧
      s.2.readings.length = qs.length ∧
      s.2.calls = ((names.flatMap fun n =>
        (qs.filter (·.2.dateText ++ ".md" == n)).map (·.1.reread)).zipWith
          Record.withDefaults s.2.readings).map (·, true) ∧
      queueFiles (W.volume s.1) dir = .ok [] := by
  refine ⟨fun q hq => ⟨Record.ofJsonText_toJson_reread (hqs q hq).1 (hqs q hq).2,
    fun hf t => hf.reread.withDefaults_eq t⟩, ?_⟩
  have hq := queued_of_enqueueAll hv hc hdir hempty henq
  obtain ⟨names, hlist, hsorted, hnames⟩ := hq.queueFiles hv hdir hempty
  subst hw
  obtain ⟨fs, hpaths, hfiles, hrecs⟩ := hq.dayTexts hdir hqs hnames
  obtain ⟨p, ts, hrun, hts, htr, hwf, hcwd, hnodes⟩ :=
    replayFiles_of_accepting W hW hstore hgo fs w {} {} hq.wellFormed
      (hpaths ▸ apart_queueFiles hq.wellFormed hlist) hfiles
  have hflush : flushIn W.transcribed dir (w, {}) = (.ok p.report, p.world) := by
    rw [hpaths] at hrun
    simp [flushIn, hlist, hrun, Except.map]
  -- one call per queued record: the day files take every record once
  have hlen : ts.length = qs.length := by
    rw [hts, hrecs, List.length_flatMap]
    simp only [List.length_map]
    rw [← List.length_flatMap]
    exact length_flatMap_filter (fun q : Record × Time.Instant => q.2.dateText ++ ".md")
      (hsorted.imp ne_of_lt) qs fun q hq' => (hnames _).2 ⟨q, hq', rfl⟩
  refine ⟨p.report, p.world, names, hflush, hsorted, hnames, ?_, ?_, ?_⟩
  · simp [htr, hlen]
  · rw [htr, ← hrecs]
    simp
  · have hkeys : fs.map (fun f => (W.volume w).locate f.1) =
        (names.map (join dir)).map (W.volume w).locate := by
      rw [← hpaths, List.map_map]
      rfl
    rw [hkeys] at hnodes
    exact queueFiles_eq_nil_of_erased hq.wellFormed hwf (Volume.isDirectory_of_keeps hq.keeps hdir)
      hlist hcwd hnodes

theorem walk_dayFile {v : Volume} {dir : Path} (hdir : v.isDirectory dir = true) (t : Time.Instant) :
    v.walk (dayFile dir t) = .ok (v.locate (dayFile dir t)) := by
  obtain ⟨hr, hd⟩ := Volume.resolve_of_isDirectory hdir
  rw [locate_dayFile]
  exact Volume.walk_join (Volume.resolve_eq_ok hr).1 hd (isName_dayName t)

section Enqueue

variable {v : Volume} {dir : Path} (hdir : v.isDirectory dir = true) (r : Record) (t : Time.Instant)
include hdir

/-- Queueing into an existing directory on a day with no file yet writes the day's title and
the record's block. -/
theorem enqueue_of_new_day (hnone : v.nodeAt (v.locate (dayFile dir t)) = none) :
    enqueue v dir r t = .ok (v.put (v.locate (dayFile dir t))
      (.file (titleBlock t.dateText ++ entryBlock t.wholeSecondsText r.toJson).toUTF8),
      dayFile dir t) := by
  have hw := walk_dayFile hdir t
  have he : endsInSlash (dayFile dir t) = false := endsInSlash_join dir (isName_dayName t)
  have hnode : v.node? (dayFile dir t) = none := by
    simp only [Volume.node?, Volume.resolve_of_walk hw he, hnone]
  simp only [enqueue, Volume.createDirAll_of_isDirectory hdir, hnode, bind, Except.bind,
    Except.mapError, Volume.writeText_of_walk hw he hnone, pure, Except.pure]

/-- Queueing into an existing directory on a day whose file holds `old` appends the record's
block. -/
theorem enqueue_of_day_file {old : ByteArray}
    (hold : v.nodeAt (v.locate (dayFile dir t)) = some (.file old)) :
    enqueue v dir r t = .ok (v.put (v.locate (dayFile dir t))
      (.file (old ++ (entryBlock t.wholeSecondsText r.toJson).toUTF8)), dayFile dir t) := by
  have hr' := Volume.resolve_of_walk (walk_dayFile hdir t) (endsInSlash_join dir (isName_dayName t))
  have hnode : v.node? (dayFile dir t) = some (.file old) := by
    simp only [Volume.node?, hr', hold]
  have hbytes : v.readBytes (dayFile dir t) = .ok old := by
    simp [Volume.readBytes, hr', hold, bind, Except.bind]
  simp only [enqueue, Volume.createDirAll_of_isDirectory hdir, hnode, bind, Except.bind,
    Except.mapError, Volume.appendText, hbytes, pure, Except.pure]

end Enqueue

/-- A world whose store keeps every record it is asked for after those before, with a clock
that stays at the epoch and a token that never fires. -/
def keepingWorld : World (Volume × List Record) where
  volume s := s.1
  withVolume s v := (v, s.2)
  now s := (⟨0, 0⟩, s)
  create s r := (.ok r, (s.1, s.2 ++ [r]))
  cancelled s := (false, s)

theorem keepingWorld_isolated : keepingWorld.Isolated :=
  ⟨fun _ _ => rfl, fun _ => rfl, fun _ _ => rfl, fun _ => rfl⟩

def queueHome : Volume := { nodes := [(["q"], .directory)] }

/-- Two records queued on the second day of the epoch around one queued on the first. -/
def queuedRecords : List (Record × Time.Instant) :=
  [({ id := "a" }, ⟨86400, 0⟩), ({ id := "b" }, ⟨0, 0⟩), ({ id := "c" }, ⟨86400, 0⟩)]

def queuedHome : Volume :=
  ((queueHome.put ["q", "1970-01-02.md"] (.file (titleBlock "1970-01-02" ++
      entryBlock "1970-01-02T00:00:00Z" ({ id := "a" } : Record).toJson).toUTF8)).put
    ["q", "1970-01-01.md"] (.file (titleBlock "1970-01-01" ++
      entryBlock "1970-01-01T00:00:00Z" ({ id := "b" } : Record).toJson).toUTF8)).put
    ["q", "1970-01-02.md"] (.file ((titleBlock "1970-01-02" ++
      entryBlock "1970-01-02T00:00:00Z" ({ id := "a" } : Record).toJson).toUTF8 ++
      (entryBlock "1970-01-02T00:00:00Z" ({ id := "c" } : Record).toJson).toUTF8))

theorem enqueueAll_queuedRecords : enqueueAll queueHome "q" queuedRecords = .ok queuedHome := by
  have hdir : queueHome.isDirectory "q" = true := by decide +kernel
  have hday₁ : queueHome.locate (dayFile "q" ⟨0, 0⟩) = ["q", "1970-01-01.md"] := by decide +kernel
  have hday₂ : queueHome.locate (dayFile "q" ⟨86400, 0⟩) = ["q", "1970-01-02.md"] := by
    decide +kernel
  have htext₁ : (⟨0, 0⟩ : Time.Instant).dateText = "1970-01-01" ∧
      (⟨0, 0⟩ : Time.Instant).wholeSecondsText = "1970-01-01T00:00:00Z" := by decide +kernel
  have htext₂ : (⟨86400, 0⟩ : Time.Instant).dateText = "1970-01-02" ∧
      (⟨86400, 0⟩ : Time.Instant).wholeSecondsText = "1970-01-02T00:00:00Z" := by decide +kernel
  -- the first record starts the second day's file
  have h₁ := enqueue_of_new_day hdir { id := "a" } ⟨86400, 0⟩ (by rw [hday₂]; decide +kernel)
  rw [hday₂, htext₂.1, htext₂.2] at h₁
  generalize hv₁ : queueHome.put ["q", "1970-01-02.md"] _ = v₁ at h₁
  have hput₁ : ∀ k, v₁.nodeAt k = if k = ["q", "1970-01-02.md"] then some (.file (titleBlock
      "1970-01-02" ++ entryBlock "1970-01-02T00:00:00Z" ({ id := "a" } : Record).toJson).toUTF8)
      else queueHome.nodeAt k := fun k => by
    rw [← hv₁, Volume.nodeAt_put _ (by simp)]
  have hloc₁ : v₁.locate = queueHome.locate := funext (Volume.locate_congr (by rw [← hv₁]; simp))
  have hdir₁ : v₁.isDirectory "q" = true := by
    rw [← hv₁]
    exact Volume.isDirectory_of_keeps (Volume.keeps_put _ (by simp) (by decide +kernel) _) hdir
  -- the second record starts the first day's file
  have h₂ := enqueue_of_new_day hdir₁ { id := "b" } ⟨0, 0⟩
    (by rw [hloc₁, hday₁, hput₁, if_neg (by decide)]; decide +kernel)
  rw [hloc₁, hday₁, htext₁.1, htext₁.2] at h₂
  generalize hv₂ : v₁.put ["q", "1970-01-01.md"] _ = v₂ at h₂
  have hloc₂ : v₂.locate = queueHome.locate := by
    rw [← hloc₁]
    exact funext (Volume.locate_congr (by rw [← hv₂]; simp))
  have hdir₂ : v₂.isDirectory "q" = true := by
    rw [← hv₂]
    refine Volume.isDirectory_of_keeps (Volume.keeps_put _ (by simp) ?_ _) hdir₁
    rw [hput₁, if_neg (by decide)]
    decide +kernel
  -- the third record is appended to the second day's file
  have h₃ := enqueue_of_day_file hdir₂ { id := "c" } ⟨86400, 0⟩
    (by rw [hloc₂, hday₂, ← hv₂, Volume.nodeAt_put _ (by simp), if_neg (by decide), hput₁,
      if_pos rfl])
  rw [hloc₂, hday₂, htext₂.2] at h₃
  simp only [enqueueAll, queuedRecords, h₁, h₂, h₃, bind, Except.bind]
  rw [queuedHome, hv₁, hv₂]

theorem flush_delivers_queued_records_two_days :
    keepingWorld.Isolated ∧ (∀ w r, (keepingWorld.create w r).1.isOk = true) ∧
      (∀ w, (keepingWorld.cancelled w).1 = false) ∧ queueHome.WellFormed ∧
      queueHome.isDirectory "q" = true ∧ queueFiles queueHome "q" = .ok [] ∧
      (∀ q ∈ queuedRecords, q.1.Storable ∧ q.1.costEstimate.isFinite = true) ∧
      enqueueAll queueHome "q" queuedRecords = .ok queuedHome ∧
      ((∀ q ∈ queuedRecords, Record.ofJsonText q.1.toJson = .ok q.1.reread ∧
        (q.1.Filled → ∀ t, q.1.reread.withDefaults t = q.1.reread)) ∧
      ∃ (report : Report) (s : (Volume × List Record) × Transcript) (names : List String),
        flushIn keepingWorld.transcribed "q" ((queuedHome, []), {}) = (.ok report, s) ∧
        names.Pairwise (· < ·) ∧
        (∀ n, n ∈ names ↔ ∃ q ∈ queuedRecords, q.2.dateText ++ ".md" = n) ∧
        s.2.readings.length = queuedRecords.length ∧
        s.2.calls = ((names.flatMap fun n =>
          (queuedRecords.filter (·.2.dateText ++ ".md" == n)).map (·.1.reread)).zipWith
            Record.withDefaults s.2.readings).map (·, true) ∧
        queueFiles (keepingWorld.volume s.1) "q" = .ok []) := by
  have hv : queueHome.WellFormed := ⟨by decide, by decide⟩
  have hdir : queueHome.isDirectory "q" = true := by decide +kernel
  have hempty : queueFiles queueHome "q" = .ok [] := by decide +kernel
  have hqs : ∀ q ∈ queuedRecords, q.1.Storable ∧ q.1.costEstimate.isFinite = true := by
    have hzero : IsCount 0 := ⟨by decide, by decide⟩
    intro q hq
    simp only [queuedRecords, List.mem_cons, List.not_mem_nil, or_false] at hq
    rcases hq with rfl | rfl | rfl <;> exact ⟨⟨hzero, hzero, hzero, by simp⟩, by decide⟩
  exact ⟨keepingWorld_isolated, fun _ _ => rfl, fun _ => rfl, hv, hdir, hempty, hqs,
    enqueueAll_queuedRecords,
    flush_delivers_queued_records keepingWorld keepingWorld_isolated (fun _ _ => rfl)
      (fun _ => rfl) hv (by simp [queueHome]) hdir hempty hqs enqueueAll_queuedRecords rfl⟩

end TurnLedger.Queue
