import TurnLedger.Proofs.Interleaving
import TurnLedger.Proofs.QueueWrites
import TurnLedger.Proofs.DoubleReread
import TurnLedger.Proofs.IngestNormalForm
import TurnLedger.Classify.RuleSet

/-!
# No acknowledged record is lost

Whenever no pass holds the lock, every request answered 201 has its record in the store once,
from its own call, and every request answered 202 has its record either in the store once, from
the replay of the entry queued for it, or waiting in exactly one entry of the file it was queued
in, holding the record's JSON text, which reads back as a record: never both, never neither
(`acknowledged_records_kept`).

The proof is an invariant of every reachable server (`Sound`), with one lemma per kind of step.
The bookkeeping of which request each entry was queued for lines up with the entries still to
be stored in every day file, those a pass keeps or has not reached included; an entry queued
for a request holds that request's record; and each request's record is counted once across
the store and the queue (`Accounted`). Day files hold settled text, so appending a block adds
exactly its entry; and a pass only writes a file it listed, whose name is a day's exactly when
its path is that day's file.
-/

namespace TurnLedger.Interleaving

open Files Activity Queue

theorem count_eraseIdx_add {α : Type} [BEq α] [LawfulBEq α] [DecidableEq α] :
    ∀ (l : List α) (k : Nat) (a : α),
    (l.eraseIdx k).count a + (if l[k]? = some a then 1 else 0) = l.count a
  | [], k, a => by simp
  | x :: l, 0, a => by
    by_cases h : x = a <;> simp [h]
  | x :: l, k + 1, a => by
    have ih := count_eraseIdx_add l k a
    simp only [List.eraseIdx_cons_succ, List.count_cons, List.getElem?_cons_succ]
    omega

theorem entriesAt_file {v : Volume} {p : Path} {d : String}
    (h : v.nodeAt (v.locate p) = some (.file d.toUTF8)) : entriesAt v p = entriesOf d := by
  simp [entriesAt, h, String.toUTF8_eq_toByteArray, Json.fromUTF8?_toByteArray]

theorem entriesAt_of_readText {v : Volume} {p : Path} {body : String}
    (h : v.readText p = .ok body) : entriesAt v p = entriesOf body :=
  entriesAt_file (Volume.readText_eq_ok h).2.2

theorem entriesAt_congr {v v' : Volume} {p : Path} (hc : v'.cwd = v.cwd)
    (h : v'.nodeAt (v.locate p) = v.nodeAt (v.locate p) ∨
      v.nodeAt (v.locate p) = none ∧ v'.nodeAt (v.locate p) = some .directory) :
    entriesAt v' p = entriesAt v p := by
  rcases h with h | ⟨h₁, h₂⟩
  · simp only [entriesAt, Volume.locate_congr hc p, h]
  · simp only [entriesAt, Volume.locate_congr hc p, h₁, h₂]

theorem pending_of_draining_none {s : Server} (h : s.draining = none) (p : Path) :
    s.pending p = entriesAt s.volume p := by
  simp [Server.pending, h]

theorem pending_of_ne {s : Server} {d : Draining} (h : s.draining = some d) {p : Path}
    (hp : d.path ≠ p) : s.pending p = entriesAt s.volume p := by
  simp [Server.pending, h, hp]

theorem pending_self {s : Server} {d : Draining} (h : s.draining = some d) :
    s.pending d.path = d.kept.map entryOf ++ d.todo := by
  simp [Server.pending, h]

theorem readText_of_entriesAt {v : Volume} {p : Path} {j : Nat} {e : Entry}
    (he : (entriesAt v p)[j]? = some e) (hw : v.walk p = .ok (v.locate p))
    (hs : endsInSlash p = false) : ∃ text, v.readText p = .ok text ∧ entriesAt v p = entriesOf text := by
  unfold entriesAt at he ⊢
  split at he
  · rename_i b hb
    cases hu : String.fromUTF8? b with
    | none => simp [hu] at he
    | some text =>
      refine ⟨text, Volume.readText_of_walk hw hs ?_, by simp⟩
      rw [hb, Volume.toUTF8_of_fromUTF8? hu]
  · simp at he

def IsDayFile (dir p : Path) : Prop := ∃ t : Time.Instant, p = dayFile dir t

theorem locate_dayFile_ne_join (v : Volume) {dir : Path} {t : Time.Instant} {n : String}
    (hn : IsName n) (h : dayFile dir t ≠ join dir n) :
    v.locate (dayFile dir t) ≠ v.locate (join dir n) := by
  rw [locate_dayFile, Volume.locate_join v dir hn]
  intro h'
  exact h (congrArg (join dir) (List.singleton_inj.1 (List.append_cancel_left h')))

theorem locate_dayFile_ne_tmp (v : Volume) (dir : Path) (t : Time.Instant) {n : String}
    (hn : IsName n) : v.locate (dayFile dir t) ≠ v.locate (join dir n ++ ".tmp") := by
  rw [join_append_tmp dir hn, locate_dayFile, Volume.locate_join v dir hn.append_tmp]
  intro h'
  exact dayName_ne_tmp t n (List.singleton_inj.1 (List.append_cancel_left h'))

theorem writeText_not_directory {v v' : Volume} {p : Path} {s : String}
    (h : v.writeText p s = .ok v') : v.nodeAt (v.locate p) ≠ some .directory := by
  unfold Volume.writeText Volume.writeBytes at h
  obtain ⟨ks, hw, h⟩ := Except.bind_eq_ok.1 h
  obtain rfl := Volume.walk_eq_ok hw
  intro hd
  simp only [hd] at h
  split at h <;> simp [bind, Except.bind, throw, throwThe, MonadExceptOf.throw] at h

theorem replaceText_keeps {v v' : Volume} (hv : v.WellFormed) (hc : ∀ n ∈ v.cwd, IsName n)
    {path : Path} {text : String} {b : ByteArray}
    (hf : v.nodeAt (v.locate path) = some (.file b)) (h : replaceText v path text = .ok v') :
    v'.WellFormed ∧ Volume.Keeps v v' := by
  unfold replaceText at h
  obtain ⟨v₁, hw, h⟩ := Except.bind_eq_ok.1 h
  have hw' := Except.mapError_eq_ok.1 hw
  have hnd := writeText_not_directory hw'
  obtain ⟨hT, rfl⟩ := Volume.writeText_eq_ok hw'
  have hk₁ := Volume.keeps_put v hT hnd (.file text.toUTF8)
  have hwf₁ := hv.put (v.names_locate hc (path ++ ".tmp")) (.file text.toUTF8)
  split at h
  · rename_i v₂ hr
    cases h
    obtain ⟨b', hb', hK, rfl⟩ := Volume.rename_eq_ok hr
    have hloc := Volume.locate_congr hk₁.cwd
    simp only [hloc] at hb' hK ⊢
    have hk₂ := Volume.keeps_erase _ hT (by rw [hb']; simp)
    -- the file's parts hold a file, or nothing once the sibling is gone
    have hnd' : ((v.put (v.locate (path ++ ".tmp")) (.file text.toUTF8)).erase
        (v.locate (path ++ ".tmp"))).nodeAt (v.locate path) ≠ some .directory := by
      rw [Volume.nodeAt_erase _ hT, Volume.nodeAt_put _ hT]
      split_ifs <;> simp [hf]
    refine ⟨(hwf₁.erase _).put (v.names_locate hc path) _, hk₁.trans (hk₂.trans ?_)⟩
    exact Volume.keeps_put _ hK hnd' _
  · cases h

theorem settleFile_keeps {v v' : Volume} (hv : v.WellFormed) (hc : ∀ n ∈ v.cwd, IsName n)
    {path body : String} {kept : List String} {rep rep' : Report}
    (hb : v.readText path = .ok body) (h : settleFile v path body kept rep = .ok (v', rep')) :
    v'.WellFormed ∧ Volume.Keeps v v' ∧
      (∀ k, k ≠ v.locate path → k ≠ v.locate (path ++ ".tmp") → v'.nodeAt k = v.nodeAt k) ∧
      v'.nodeAt (v.locate path) = if kept = [] then none
        else some (.file (pendingFile ((fileStem path).getD "") kept).toUTF8) := by
  obtain ⟨-, -, hnodes⟩ := Queue.settleFile_eq_ok hb h
  have hframe : ∀ k, k ≠ v.locate path → k ≠ v.locate (path ++ ".tmp") →
      v'.nodeAt k = v.nodeAt k := fun k h₁ h₂ => by
    rw [hnodes, if_neg h₁, if_neg fun h' => h₂ h'.1]
  have hat : v'.nodeAt (v.locate path) = if kept = [] then none
      else some (.file (pendingFile ((fileStem path).getD "") kept).toUTF8) := by
    rw [hnodes, if_pos rfl]
    simp only [List.isEmpty_iff]
  have hf := (Volume.readText_eq_ok hb).2.2
  have hks : v.locate path ≠ [] := fun h0 => by rw [h0] at hf; cases hf
  -- what remains is that the volume stays well formed and keeps its directories
  unfold settleFile at h
  split at h
  · -- nothing kept: the file is deleted
    rw [removeDrained_of_readText hb] at h
    obtain ⟨_, hv', h⟩ := Except.map_eq_ok.1 h
    cases hv'
    cases h
    exact ⟨hv.erase _, Volume.keeps_erase _ hks (by rw [hf]; simp), hframe, hat⟩
  · dsimp only at h
    split at h
    · -- the text would not change
      cases h
      exact ⟨hv, .refl v, hframe, hat⟩
    · obtain ⟨v₂, hr, h⟩ := Except.map_eq_ok.1 h
      cases h
      obtain ⟨hwf, hk⟩ := replaceText_keeps hv hc hf hr
      exact ⟨hwf, hk, hframe, hat⟩

theorem getElem?_concat_eq_some {α : Type} {l : List α} {a b : α} {i : Nat}
    (h : (l ++ [a])[i]? = some b) : l[i]? = some b ∨ i = l.length ∧ b = a := by
  by_cases hi : i < l.length
  · rw [List.getElem?_append_left hi] at h
    exact .inl h
  · rw [List.getElem?_append_right (by omega)] at h
    have hlt := (List.getElem?_eq_some_iff.1 h).1
    have hi' : i = l.length := by simp at hlt; omega
    subst hi'
    simp at h
    exact .inr ⟨rfl, h.symm⟩

theorem getElem?_append_of_eq_some {α : Type} {l : List α} {b : α} {i : Nat}
    (h : l[i]? = some b) (l' : List α) : (l ++ l')[i]? = some b := by
  rw [List.getElem?_append_left (List.getElem?_eq_some_iff.1 h).1, h]

theorem Server.count_append (s : Server) (o' : Origin) (x : Record) (v : Volume)
    (rq : List Request) (ps : Option Passing) (ow : Path → List (Option Nat)) (o : Origin) :
    Server.count ⟨v, s.stored ++ [(o', x)], rq, ps, ow⟩ o = s.count o + if o' = o then 1 else 0 := by
  simp [Server.count, List.countP_append]

theorem Server.count_mk (s : Server) (v : Volume) (rq : List Request) (ps : Option Passing)
    (ow : Path → List (Option Nat)) (o : Origin) :
    Server.count ⟨v, s.stored, rq, ps, ow⟩ o = s.count o := rfl

theorem Server.exists_of_count_pos {s : Server} {o : Origin} (h : 0 < s.count o) :
    ∃ x, (o, x) ∈ s.stored := by
  obtain ⟨⟨o', x⟩, hx, ho⟩ := List.countP_pos_iff.1 h
  simp only [decide_eq_true_eq] at ho
  subst ho
  exact ⟨x, hx⟩

theorem Server.not_mem_of_count_eq_zero {s : Server} {o : Origin} (h : s.count o = 0)
    (x : Record) : (o, x) ∉ s.stored := fun hx => by
  rw [Server.count, List.countP_eq_zero] at h
  exact h _ hx (by simp)

theorem eraseIdx_append_length {α : Type} (l₁ l₂ : List α) (a : α) :
    (l₁ ++ a :: l₂).eraseIdx l₁.length = l₁ ++ l₂ := by
  rw [List.eraseIdx_append_of_length_le le_rfl, Nat.sub_self, List.eraseIdx_cons_zero]

theorem exists_getElem?_of_count_eq_one {α : Type} [BEq α] [LawfulBEq α] :
    ∀ {l : List α} {a : α}, l.count a = 1 →
      ∃ k : Nat, l[k]? = some a ∧ ∀ k' : Nat, l[k']? = some a → k' = k
  | [], a, h => by simp at h
  | x :: l, a, h => by
    by_cases hx : x = a
    · subst hx
      have h0 : l.count x = 0 := by simpa using h
      refine ⟨0, rfl, fun k' hk' => ?_⟩
      cases k' with
      | zero => rfl
      | succ k' =>
        have hk'' : l[k']? = some x := by simpa using hk'
        exact absurd (List.mem_of_getElem? hk'') (List.count_eq_zero.1 h0)
    · have h1 : l.count a = 1 := by simpa [List.count_cons, hx] using h
      obtain ⟨k, hk, huniq⟩ := exists_getElem?_of_count_eq_one h1
      refine ⟨k + 1, hk, fun k' hk' => ?_⟩
      cases k' with
      | zero => simp at hk'; exact absurd hk' hx
      | succ k' => rw [huniq k' hk']

theorem getElem?_set_cases {α : Type} {l : List α} {i j : Nat} {a b : α}
    (h : (l.set i a)[j]? = some b) : j = i ∧ b = a ∨ j ≠ i ∧ l[j]? = some b := by
  rw [List.getElem?_set] at h
  split at h
  · rename_i hij
    subst hij
    split at h
    · exact .inl ⟨rfl, (Option.some.inj h).symm⟩
    · cases h
  · exact .inr ⟨Ne.symm ‹_›, h⟩

/-- How request `i`, standing as `r`, is accounted for in the store and in the queue. -/
structure Accounted (s : Server) (i : Nat) (r : Request) : Prop where
  receivable : Receivable r.record
  /-- Its own call stored its record once, exactly when it was answered 201. -/
  direct : s.count (.direct i) = if r.phase = .created then 1 else 0
  /-- Answered 202, its record is once in the file it was queued in or in the store. -/
  queued : ∀ p, r.phase = .queued p → (s.owners p).count (some i) + s.count (.replayed i) = 1
  elsewhere : ∀ q, r.phase ≠ .queued q → some i ∉ s.owners q
  unqueued : (∀ p, r.phase ≠ .queued p) → s.count (.replayed i) = 0
  directRecord : ∀ x, (.direct i, x) ∈ s.stored → x = r.record
  replayedRecord : ∀ x, (.replayed i, x) ∈ s.stored →
    ∃ y now, Record.ofJsonText r.record.toJson = .ok y ∧ x = y.withDefaults now

structure Unclaimed (s : Server) (i : Nat) : Prop where
  direct : s.count (.direct i) = 0
  replayed : s.count (.replayed i) = 0
  owners : ∀ q, some i ∉ s.owners q

theorem Accounted.of_counts {s s' : Server} {i : Nat} {r : Request} (h : Accounted s i r)
    (hs : s'.stored = s.stored)
    (ho : ∀ q, (s'.owners q).count (some i) = (s.owners q).count (some i)) : Accounted s' i r := by
  have hc : ∀ o, s'.count o = s.count o := fun o => by simp [Server.count, hs]
  refine ⟨h.receivable, ?_, fun p hp => ?_, fun q hq => ?_, fun hq => ?_, fun x hx => ?_,
    fun x hx => ?_⟩
  · rw [hc]; exact h.direct
  · rw [hc, ho]; exact h.queued p hp
  · rw [← List.count_eq_zero, ho, List.count_eq_zero]; exact h.elsewhere q hq
  · rw [hc]; exact h.unqueued hq
  · rw [hs] at hx; exact h.directRecord x hx
  · rw [hs] at hx; exact h.replayedRecord x hx

theorem Accounted.congr {s s' : Server} {i : Nat} {r : Request} (h : Accounted s i r)
    (hs : s'.stored = s.stored) (ho : s'.owners = s.owners) : Accounted s' i r :=
  h.of_counts hs fun q => by rw [ho]

theorem Unclaimed.of_counts {s s' : Server} {i : Nat} (h : Unclaimed s i)
    (hs : s'.stored = s.stored)
    (ho : ∀ q, (s'.owners q).count (some i) = (s.owners q).count (some i)) : Unclaimed s' i := by
  have hc : ∀ o, s'.count o = s.count o := fun o => by simp [Server.count, hs]
  refine ⟨by rw [hc]; exact h.direct, by rw [hc]; exact h.replayed, fun q => ?_⟩
  rw [← List.count_eq_zero, ho, List.count_eq_zero]
  exact h.owners q

theorem Unclaimed.congr {s s' : Server} {i : Nat} (h : Unclaimed s i)
    (hs : s'.stored = s.stored) (ho : s'.owners = s.owners) : Unclaimed s' i :=
  h.of_counts hs fun q => by rw [ho]

theorem Accounted.append_other {s : Server} {i : Nat} {r : Request} (h : Accounted s i r)
    {o : Origin} (hd : o ≠ .direct i) (hr : o ≠ .replayed i) {ow : Path → List (Option Nat)}
    (ho : ∀ q, (ow q).count (some i) = (s.owners q).count (some i)) {x : Record} {v : Volume}
    {rq : List Request} {ps : Option Passing} :
    Accounted ⟨v, s.stored ++ [(o, x)], rq, ps, ow⟩ i r := by
  refine ⟨h.receivable, ?_, fun p hp => ?_, fun q hq => ?_, fun hq => ?_, fun y hy => ?_,
    fun y hy => ?_⟩
  · rw [Server.count_append, if_neg hd, Nat.add_zero]; exact h.direct
  · rw [Server.count_append, if_neg hr, Nat.add_zero, ho]; exact h.queued p hp
  · rw [← List.count_eq_zero, ho, List.count_eq_zero]; exact h.elsewhere q hq
  · rw [Server.count_append, if_neg hr, Nat.add_zero]; exact h.unqueued hq
  · rcases List.mem_append.1 hy with hy | hy
    · exact h.directRecord y hy
    · simp only [List.mem_singleton, Prod.mk.injEq] at hy
      exact absurd hy.1.symm hd
  · rcases List.mem_append.1 hy with hy | hy
    · exact h.replayedRecord y hy
    · simp only [List.mem_singleton, Prod.mk.injEq] at hy
      exact absurd hy.1.symm hr

theorem Unclaimed.append_other {s : Server} {i : Nat} (h : Unclaimed s i) {o : Origin}
    (hd : o ≠ .direct i) (hr : o ≠ .replayed i) {ow : Path → List (Option Nat)}
    (ho : ∀ q, (ow q).count (some i) = (s.owners q).count (some i)) {x : Record} {v : Volume}
    {rq : List Request} {ps : Option Passing} : Unclaimed ⟨v, s.stored ++ [(o, x)], rq, ps, ow⟩ i := by
  refine ⟨by rw [Server.count_append, if_neg hd, Nat.add_zero]; exact h.direct,
    by rw [Server.count_append, if_neg hr, Nat.add_zero]; exact h.replayed, fun q => ?_⟩
  rw [← List.count_eq_zero, ho, List.count_eq_zero]
  exact h.owners q

/-- What every server reachable from a volume fit for the queue in `dir` satisfies. -/
structure Sound (dir : Path) (s : Server) : Prop where
  wellFormed : s.volume.WellFormed
  cwd : ∀ n ∈ s.volume.cwd, IsName n
  settled : ∀ t b, s.volume.nodeAt (s.volume.locate (dayFile dir t)) = some (.file b) →
    ∃ d : String, b = d.toUTF8 ∧ Settled d.toList
  listed : ∀ ps, s.pass = some ps → ∀ p ∈ ps.files, ∃ n, IsName n ∧ p = join dir n
  /-- The file a pass replays is one it listed, holding the text it read; what it keeps reads
  back as it is, and what it has not reached are entries of that text. -/
  draining : ∀ d, s.draining = some d → (∃ n, IsName n ∧ d.path = join dir n) ∧
    s.volume.readText d.path = .ok d.body ∧ (∀ x ∈ d.kept, Keepable x) ∧
    ∀ e ∈ d.todo, e ∈ entriesOf d.body
  /-- The bookkeeping of a day file lines up with its entries still to be stored. -/
  aligned : ∀ t, (s.owners (dayFile dir t)).length = (s.pending (dayFile dir t)).length
  untagged : ∀ p, ¬ IsDayFile dir p → ∀ o ∈ s.owners p, o = none
  /-- An entry queued for a request holds that request's record, in the file it was queued
  in, which can be walked to. -/
  tagged : ∀ (p : Path) (j i : Nat), (s.owners p)[j]? = some (some i) → ∃ r : Request, s.requests[i]? = some r ∧
    r.phase = .queued p ∧ (s.pending p)[j]? = some (entryOf r.record.toJson) ∧
    s.volume.walk p = .ok (s.volume.locate p)
  accounted : ∀ (i : Nat) (r : Request), s.requests[i]? = some r → Accounted s i r
  beyond : ∀ i : Nat, s.requests.length ≤ i → Unclaimed s i

section Steps

variable {dir : Path}

theorem Sound.start {v : Volume} (hv : v.WellFormed) (hc : ∀ n ∈ v.cwd, IsName n)
    (hdays : ∀ t b, v.nodeAt (v.locate (dayFile dir t)) = some (.file b) →
      ∃ d : String, b = d.toUTF8 ∧ Settled d.toList) :
    Sound dir (Server.start v) where
  wellFormed := hv
  cwd := hc
  settled := hdays
  listed ps h := by cases h
  draining d h := by cases h
  aligned t := by
    rw [pending_of_draining_none rfl]
    simp [Server.start]
  untagged p _ o ho := by
    simp only [Server.start, List.mem_map] at ho
    obtain ⟨_, _, rfl⟩ := ho
    rfl
  tagged p j i h := by
    simp only [Server.start, List.map_const', List.getElem?_replicate] at h
    split at h <;> simp at h
  accounted i r h := by simp [Server.start] at h
  beyond i _ := ⟨rfl, rfl, fun q hq => by simp [Server.start] at hq⟩

theorem Sound.receive {s : Server} (h : Sound dir s) {x : Record} (hx : Receivable x) :
    Sound dir { s with requests := s.requests ++ [⟨x, .received⟩] } := by
  refine { h with tagged := ?_, accounted := ?_, beyond := ?_ }
  · intro p j i hj
    obtain ⟨r, hr, h₁, h₂, h₃⟩ := h.tagged p j i hj
    exact ⟨r, getElem?_append_of_eq_some hr _, h₁, h₂, h₃⟩
  · intro i r hr
    rcases getElem?_concat_eq_some hr with hr | ⟨rfl, rfl⟩
    · exact (h.accounted i r hr).congr rfl rfl
    · have hb : Unclaimed { s with requests := s.requests ++ [⟨x, .received⟩] }
          s.requests.length := (h.beyond _ le_rfl).congr rfl rfl
      exact ⟨hx, by simp [hb.direct], fun p hp => (by cases hp), fun q _ => hb.owners q,
        fun _ => hb.replayed, fun y hy => absurd hy (Server.not_mem_of_count_eq_zero hb.direct y),
        fun y hy => absurd hy (Server.not_mem_of_count_eq_zero hb.replayed y)⟩
  · intro i hi
    exact (h.beyond i (by simp at hi; omega)).congr rfl rfl

theorem Sound.create {s : Server} (h : Sound dir s) {i : Nat} {r : Request}
    (hi : s.requests[i]? = some r) (hr : r.phase = .received) :
    Sound dir { s with stored := s.stored ++ [(.direct i, r.record)],
                       requests := s.requests.set i { r with phase := .created } } := by
  have hacc := h.accounted i r hi
  have hlt := (List.getElem?_eq_some_iff.1 hi).1
  refine { h with tagged := ?_, accounted := ?_, beyond := ?_ }
  · intro p j i' hj
    obtain ⟨r', hr', h₁, h₂, h₃⟩ := h.tagged p j i' hj
    -- a request with a queued entry is not the one answered now
    have hne : i ≠ i' := by
      rintro rfl
      rw [hi, Option.some.injEq] at hr'
      subst hr'
      rw [hr] at h₁
      cases h₁
    exact ⟨r', by rw [List.getElem?_set_ne hne]; exact hr', h₁, h₂, h₃⟩
  · intro i' r' hr'
    rcases getElem?_set_cases hr' with ⟨rfl, rfl⟩ | ⟨hne, hr'⟩
    · have hd : s.count (.direct i') = 0 := by simpa [hr] using hacc.direct
      refine ⟨hacc.receivable, ?_, fun p hp => (by cases hp), fun q _ => ?_, fun _ => ?_,
        fun x hx => ?_, fun x hx => ?_⟩
      · rw [Server.count_append, hd]; simp
      · exact hacc.elsewhere q (by rw [hr]; simp)
      · rw [Server.count_append, if_neg (by simp), Nat.add_zero]
        exact hacc.unqueued (by simp [hr])
      · rcases List.mem_append.1 hx with hx | hx
        · exact absurd hx (Server.not_mem_of_count_eq_zero hd x)
        · simp only [List.mem_singleton, Prod.mk.injEq] at hx
          exact hx.2
      · rcases List.mem_append.1 hx with hx | hx
        · exact hacc.replayedRecord x hx
        · simp at hx
    · exact (h.accounted i' r' hr').append_other (by simpa using Ne.symm hne) (by simp)
        fun _ => rfl
  · intro i' hi'
    have hne : i ≠ i' := by simp at hi'; omega
    exact (h.beyond i' (by simpa using hi')).append_other (by simpa using hne) (by simp)
      fun _ => rfl

theorem Sound.refuse {s : Server} (h : Sound dir s) {i : Nat} {r : Request}
    (hi : s.requests[i]? = some r) (hr : r.phase = .received) :
    Sound dir { s with requests := s.requests.set i { r with phase := .refused } } := by
  have hacc := h.accounted i r hi
  refine { h with tagged := ?_, accounted := ?_, beyond := ?_ }
  · intro p j i' hj
    obtain ⟨r', hr', h₁, h₂, h₃⟩ := h.tagged p j i' hj
    have hne : i ≠ i' := by
      rintro rfl
      rw [hi, Option.some.injEq] at hr'
      subst hr'
      rw [hr] at h₁
      cases h₁
    exact ⟨r', by rw [List.getElem?_set_ne hne]; exact hr', h₁, h₂, h₃⟩
  · intro i' r' hr'
    rcases getElem?_set_cases hr' with ⟨rfl, rfl⟩ | ⟨hne, hr'⟩
    · have hd : s.count (.direct i') = 0 := by simpa [hr] using hacc.direct
      refine Accounted.congr ⟨hacc.receivable, by simpa using hd, fun p hp => (by cases hp),
        fun q _ => hacc.elsewhere q (by rw [hr]; simp), fun _ => hacc.unqueued (by simp [hr]),
        fun x hx => absurd hx (Server.not_mem_of_count_eq_zero hd x), hacc.replayedRecord⟩ rfl rfl
    · exact (h.accounted i' r' hr').congr rfl rfl
  · intro i' hi'
    exact (h.beyond i' (by simpa using hi')).congr rfl rfl

theorem count_update_append {owners : Path → List (Option Nat)} {path : Path} {i i' : Nat}
    (hne : i' ≠ i) (q : Path) :
    (Function.update owners path (owners path ++ [some i]) q).count (some i') =
      (owners q).count (some i') := by
  by_cases hq : q = path
  · subst hq
    rw [Function.update_self, List.count_append]
    simp [Ne.symm hne]
  · rw [Function.update_of_ne hq]

theorem Sound.enqueue {s : Server} (h : Sound dir s) (hfree : s.pass = none) {i : Nat}
    {r : Request} (hi : s.requests[i]? = some r) (hr : r.phase = .refused) {now : Time.Instant}
    {v : Volume} {path : Path} (he : Queue.enqueue s.volume dir r.record now = .ok (v, path)) :
    Sound dir { s with volume := v, requests := s.requests.set i { r with phase := .queued path },
                       owners := Function.update s.owners path (s.owners path ++ [some i]) } := by
  obtain ⟨rfl, hwf, hkeep, hframe, hwalk, old, hold, hnew⟩ := enqueue_eq_ok h.wellFormed h.cwd he
  have hacc := h.accounted i r hi
  have hloc := Volume.locate_congr hkeep.cwd
  have hpend := pending_of_draining_none (s := s) (by simp [Server.draining, hfree])
  -- every other day file is as it was
  have hother : ∀ t, dayFile dir t ≠ dayFile dir now →
      entriesAt v (dayFile dir t) = entriesAt s.volume (dayFile dir t) := fun t ht =>
    entriesAt_congr hkeep.cwd (hframe _ (locate_dayFile_ne_join _ (isName_dayName now) ht))
  -- the day file of `now` held settled text, and now holds it followed by the record's block
  obtain ⟨d, hd₁, hd₂, hd₃⟩ : ∃ d : String,
      v.nodeAt (s.volume.locate (dayFile dir now)) =
        some (.file (d ++ entryBlock now.wholeSecondsText r.record.toJson).toUTF8) ∧
      entriesAt s.volume (dayFile dir now) = entriesOf d ∧ Settled d.toList := by
    rcases hold with hf | ⟨hn, rfl⟩
    · obtain ⟨d, rfl, hd⟩ := h.settled now old hf
      exact ⟨d, by rw [hnew, toUTF8_append], entriesAt_file hf, hd⟩
    · have hL := Time.not_mem_dateText (t := now) (c := '\n') (by decide) (by decide) (by decide)
      refine ⟨titleBlock now.dateText, by rw [hnew, toUTF8_append], ?_, settled_titleBlock hL⟩
      simp [entriesAt, hn, entriesOf_titleBlock hL]
  obtain ⟨hentries, hsettled⟩ :=
    entriesOf_append_entryBlock hd₃ (Time.Instant.stamp_wholeSecondsText now) r.record
  have hwritten : entriesAt v (dayFile dir now) =
      entriesAt s.volume (dayFile dir now) ++ [entryOf r.record.toJson] := by
    rw [entriesAt_file (by rw [hloc]; exact hd₁), hentries, hd₂]
  have hlen : (s.owners (dayFile dir now)).length = (entriesAt s.volume (dayFile dir now)).length :=
    by rw [h.aligned now, hpend]
  refine ⟨hwf, hkeep.cwd ▸ h.cwd, fun t b hb => ?_, fun ps hps => by simp [hfree] at hps,
    fun d hd => by simp [Server.draining, hfree] at hd, fun t => ?_, fun p hp => ?_,
    fun p j i' hj => ?_, fun i' r' hr' => ?_, fun i' hi' => ?_⟩
  · -- settled
    dsimp only at hb
    rw [hloc] at hb
    by_cases ht : dayFile dir t = dayFile dir now
    · rw [ht, hd₁, Option.some.injEq, Node.file.injEq] at hb
      exact ⟨_, hb.symm, hsettled⟩
    · rcases hframe _ (locate_dayFile_ne_join _ (isName_dayName now) ht) with h' | ⟨-, h'⟩
      · exact h.settled t b (h' ▸ hb)
      · rw [h'] at hb; cases hb
  · -- aligned
    rw [pending_of_draining_none (by simp [Server.draining, hfree])]
    dsimp only
    by_cases ht : dayFile dir t = dayFile dir now
    · rw [ht, Function.update_self, hwritten, List.length_append, List.length_append, hlen]
      rfl
    · rw [Function.update_of_ne ht, hother t ht, ← hpend]
      exact h.aligned t
  · -- untagged
    dsimp only
    have hne : p ≠ dayFile dir now := fun hp' => hp ⟨now, hp'⟩
    rw [Function.update_of_ne hne]
    exact h.untagged p hp
  · -- tagged
    rw [pending_of_draining_none (by simp [Server.draining, hfree])]
    dsimp only at hj ⊢
    -- an entry already queued belongs to another request, which is as it was
    have hold : ∀ j', (s.owners p)[j']? = some (some i') → ∃ r' : Request,
        (s.requests.set i { r with phase := .queued (dayFile dir now) })[i']? = some r' ∧
        r'.phase = .queued p ∧ (entriesAt s.volume p)[j']? = some (entryOf r'.record.toJson) ∧
        v.walk p = .ok (v.locate p) := fun j' hj' => by
      obtain ⟨r', hr', h₁, h₂, h₃⟩ := h.tagged p j' i' hj'
      have hne : i ≠ i' := by
        rintro rfl
        rw [hi, Option.some.injEq] at hr'
        subst hr'
        rw [hr] at h₁
        cases h₁
      rw [hpend] at h₂
      exact ⟨r', by rw [List.getElem?_set_ne hne]; exact hr', h₁, h₂,
        by rw [hloc]; exact Volume.walk_of_keeps hkeep h₃⟩
    by_cases hp : p = dayFile dir now
    · subst hp
      rw [Function.update_self] at hj
      rcases getElem?_concat_eq_some hj with hj | ⟨rfl, hii⟩
      · obtain ⟨r', h₁, h₂, h₃, h₄⟩ := hold j hj
        exact ⟨r', h₁, h₂, by rw [hwritten]; exact getElem?_append_of_eq_some h₃ _, h₄⟩
      · cases hii
        refine ⟨{ r with phase := .queued (dayFile dir now) }, ?_, rfl, ?_,
          by rw [hloc]; exact hwalk⟩
        · exact List.getElem?_set_self (List.getElem?_eq_some_iff.1 hi).1
        · rw [hwritten, hlen, List.getElem?_concat_length]
    · rw [Function.update_of_ne hp] at hj
      obtain ⟨r', h₁, h₂, h₃, h₄⟩ := hold j hj
      -- a file holding an entry queued for a request is a day file
      obtain ⟨t, rfl⟩ : IsDayFile dir p := by
        by_contra hday
        exact absurd (h.untagged p hday _ (List.mem_of_getElem? hj)) (by simp)
      exact ⟨r', h₁, h₂, by rw [hother t hp]; exact h₃, h₄⟩
  · -- accounted
    dsimp only at hr'
    rcases getElem?_set_cases hr' with ⟨rfl, rfl⟩ | ⟨hne, hr'⟩
    · have hnone := hacc.elsewhere (dayFile dir now) (by rw [hr]; simp)
      refine ⟨hacc.receivable, by rw [Server.count_mk]; simpa [hr] using hacc.direct,
        fun p hp => ?_, fun q hq => ?_,
        fun hq => absurd rfl (hq (dayFile dir now)), hacc.directRecord, hacc.replayedRecord⟩
      · cases hp
        simp only [Function.update_self, List.count_append, List.count_eq_zero.2 hnone,
          List.count_singleton_self]
        rw [Server.count_mk, hacc.unqueued (by simp [hr])]
      · have hq' : q ≠ dayFile dir now := fun h' => hq (by rw [h'])
        simp only [Function.update_of_ne hq']
        exact hacc.elsewhere q (by rw [hr]; simp)
    · exact (h.accounted i' r' hr').of_counts rfl (count_update_append hne)
  · -- beyond
    dsimp only at hi'
    have hne : i' ≠ i := by
      have := (List.getElem?_eq_some_iff.1 hi).1
      simp at hi'
      omega
    exact (h.beyond i' (by simpa using hi')).of_counts rfl (count_update_append hne)

theorem Sound.with_pass {s : Server} (h : Sound dir s) {ps : Option Passing}
    (hpend : ∀ p, Server.pending { s with pass := ps } p = s.pending p)
    (hlisted : ∀ q, ps = some q → ∀ p ∈ q.files, ∃ n, IsName n ∧ p = join dir n)
    (hdrain : ∀ d, ps.bind (·.draining) = some d → (∃ n, IsName n ∧ d.path = join dir n) ∧
      s.volume.readText d.path = .ok d.body ∧ (∀ x ∈ d.kept, Keepable x) ∧
      ∀ e ∈ d.todo, e ∈ entriesOf d.body) :
    Sound dir { s with pass := ps } := by
  refine ⟨h.wellFormed, h.cwd, h.settled, hlisted, hdrain, fun t => ?_, h.untagged,
    fun p j i hj => ?_, fun i r hr => (h.accounted i r hr).congr rfl rfl,
    fun i hi => (h.beyond i hi).congr rfl rfl⟩
  · rw [hpend]; exact h.aligned t
  · obtain ⟨r, h₁, h₂, h₃, h₄⟩ := h.tagged p j i hj
    exact ⟨r, h₁, h₂, by rw [hpend]; exact h₃, h₄⟩

theorem Sound.begin {s : Server} (h : Sound dir s) (hfree : s.pass = none) {files : List Path}
    (hq : queueFiles s.volume dir = .ok files) :
    Sound dir { s with pass := some ⟨files, none, {}⟩ } := by
  have hdr : s.draining = none := by simp [Server.draining, hfree]
  refine h.with_pass (fun p => ?_) (fun q hq' p hp => ?_) (fun d hd => by simp at hd)
  · rw [pending_of_draining_none rfl, pending_of_draining_none hdr]
  · cases hq'
    obtain ⟨ns, rfl, -, hns⟩ := queueFiles_eq_ok h.wellFormed hq
    obtain ⟨n, hn, rfl⟩ := List.mem_map.1 hp
    exact ⟨n, (hns n hn).1, rfl⟩

theorem Sound.release {s : Server} (h : Sound dir s) {files : List Path} {rep : Report}
    (hp : s.pass = some ⟨files, none, rep⟩) : Sound dir { s with pass := none } := by
  have hdr : s.draining = none := by simp [Server.draining, hp]
  refine h.with_pass (fun p => ?_) (fun q hq => by cases hq) (fun d hd => by cases hd)
  rw [pending_of_draining_none rfl, pending_of_draining_none hdr]

theorem Sound.take {s : Server} (h : Sound dir s) {path : Path} {rest : List Path}
    {rep : Report} {body : String} (hp : s.pass = some ⟨path :: rest, none, rep⟩)
    (hb : s.volume.readText path = .ok body) :
    Sound dir { s with pass := some ⟨rest, some ⟨path, body, entriesOf body, []⟩, rep⟩ } := by
  have hdr : s.draining = none := by simp [Server.draining, hp]
  have hlisted := h.listed _ hp
  refine h.with_pass (fun p => ?_) (fun q hq p' hp' => ?_) (fun d hd => ?_)
  · rw [pending_of_draining_none hdr]
    simp only [Server.pending, Server.draining, Option.bind_some]
    split_ifs with hpath
    · subst hpath
      rw [entriesAt_of_readText hb]
      rfl
    · rfl
  · cases hq
    exact hlisted p' (List.mem_cons_of_mem _ hp')
  · cases hd
    exact ⟨hlisted path (List.mem_cons_self ..), hb, by simp, fun _ he => he⟩

theorem Sound.keep {s : Server} (h : Sound dir s) {files : List Path} {d : Draining}
    {rep rep' : Report} {e : Entry} {todo : List Entry}
    (hp : s.pass = some ⟨files, some d, rep⟩) (ht : d.todo = e :: todo) :
    Sound dir { s with pass := some ⟨files,
      some { d with todo := todo, kept := d.kept ++ [e.raw] }, rep'⟩ } := by
  have hdr : s.draining = some d := by simp [Server.draining, hp]
  obtain ⟨hpath, hb, hkept, htodo⟩ := h.draining d hdr
  -- the entry kept reads back as itself
  obtain ⟨hkeep, he⟩ := keepable_of_mem_entriesOf (htodo e (by rw [ht]; exact List.mem_cons_self ..))
  refine h.with_pass (fun p => ?_) (fun q hq => ?_) (fun d' hd' => ?_)
  · by_cases hpd : d.path = p
    · subst hpd
      rw [pending_self hdr, ht]
      simp [Server.pending, Server.draining, ← he]
    · rw [pending_of_ne hdr hpd]
      simp [Server.pending, Server.draining, hpd]
  · cases hq
    exact h.listed ⟨files, some d, rep⟩ hp
  · cases hd'
    refine ⟨hpath, hb, fun x hx => ?_, fun x hx => htodo x (by rw [ht]; exact List.mem_cons_of_mem _ hx)⟩
    rcases List.mem_append.1 hx with hx | hx
    · exact hkept x hx
    · rw [List.mem_singleton.1 hx]; exact hkeep

theorem originOf_ne_direct (o : Option (Option Nat)) (i : Nat) : originOf o ≠ .direct i := by
  rcases o with _ | _ | _ <;> simp [originOf]

theorem originOf_eq_replayed {o : Option (Option Nat)} {i : Nat} :
    originOf o = .replayed i ↔ o = some (some i) := by
  rcases o with _ | _ | _ <;> simp [originOf]

theorem count_update_eraseIdx {owners : Path → List (Option Nat)} {path : Path} {k : Nat}
    {a : Option Nat} (hne : (owners path)[k]? ≠ some a) (q : Path) :
    (Function.update owners path ((owners path).eraseIdx k) q).count a = (owners q).count a := by
  by_cases hq : q = path
  · subst hq
    have h' := count_eraseIdx_add (owners q) k a
    rw [if_neg hne, Nat.add_zero] at h'
    rw [Function.update_self, h']
  · rw [Function.update_of_ne hq]

theorem Sound.replay {s : Server} (h : Sound dir s) {files : List Path} {d : Draining}
    {rep : Report} {e : Entry} {todo : List Entry} {x : Record} (now : Time.Instant)
    (hp : s.pass = some ⟨files, some d, rep⟩) (ht : d.todo = e :: todo) (he : e.record = some x) :
    Sound dir { s with
      stored := s.stored ++ [(originOf (s.owners d.path)[d.kept.length]?, x.withDefaults now)],
      owners := Function.update s.owners d.path ((s.owners d.path).eraseIdx d.kept.length),
      pass := some ⟨files, some { d with todo := todo },
        { rep with flushed := rep.flushed + 1 }⟩ } := by
  have hdr : s.draining = some d := by simp [Server.draining, hp]
  obtain ⟨hpath, hb, hkept, htodo⟩ := h.draining d hdr
  have hpend : s.pending d.path = d.kept.map entryOf ++ e :: todo := by rw [pending_self hdr, ht]
  have hk : (d.kept.map entryOf).length = d.kept.length := List.length_map _
  -- the entries still to be stored lose the one at the pass's position, and nothing else moves
  have hpend' : ∀ p, Server.pending { s with
      stored := s.stored ++ [(originOf (s.owners d.path)[d.kept.length]?, x.withDefaults now)],
      owners := Function.update s.owners d.path ((s.owners d.path).eraseIdx d.kept.length),
      pass := some ⟨files, some { d with todo := todo }, { rep with flushed := rep.flushed + 1 }⟩ } p =
      if p = d.path then (s.pending p).eraseIdx d.kept.length else s.pending p := by
    intro p
    by_cases hpp : p = d.path
    · subst hpp
      rw [if_pos rfl, hpend, ← hk, eraseIdx_append_length]
      simp [Server.pending, Server.draining]
    · rw [if_neg hpp, pending_of_ne hdr (Ne.symm hpp)]
      simp [Server.pending, Server.draining, Ne.symm hpp]
  refine ⟨h.wellFormed, h.cwd, h.settled, fun q hq => ?_, fun d' hd' => ?_, fun t => ?_,
    fun p hp' => ?_, fun p j i hj => ?_, fun i r hr => ?_, fun i hi => ?_⟩
  · cases hq
    exact h.listed ⟨files, some d, rep⟩ hp
  · cases hd'
    exact ⟨hpath, hb, hkept, fun y hy => htodo y (by rw [ht]; exact List.mem_cons_of_mem _ hy)⟩
  · -- aligned
    rw [hpend']
    dsimp only
    by_cases ht' : dayFile dir t = d.path
    · rw [if_pos ht', ht', Function.update_self, List.length_eraseIdx, List.length_eraseIdx,
        ← ht', h.aligned t]
    · rw [if_neg ht', Function.update_of_ne ht']
      exact h.aligned t
  · -- untagged
    intro o ho
    dsimp only at ho
    by_cases hpp : p = d.path
    · subst hpp
      rw [Function.update_self] at ho
      exact h.untagged _ hp' o (List.mem_of_mem_eraseIdx ho)
    · rw [Function.update_of_ne hpp] at ho
      exact h.untagged p hp' o ho
  · -- tagged: the entries after the one taken move up with their bookkeeping
    dsimp only at hj ⊢
    rw [hpend']
    by_cases hpp : p = d.path
    · subst hpp
      rw [Function.update_self, List.getElem?_eraseIdx] at hj
      rw [if_pos rfl, List.getElem?_eraseIdx]
      split_ifs at hj ⊢ with hjk
      · exact h.tagged _ j i hj
      · exact h.tagged _ (j + 1) i hj
    · rw [Function.update_of_ne hpp] at hj
      rw [if_neg hpp]
      exact h.tagged p j i hj
  · -- accounted
    dsimp only at hr
    have hacc := h.accounted i r hr
    by_cases hown : (s.owners d.path)[d.kept.length]? = some (some i)
    · -- the entry replayed was queued for this request
      obtain ⟨r', hr', hph, hent, -⟩ := h.tagged _ _ i hown
      rw [hr, Option.some.injEq] at hr'
      subst hr'
      rw [hpend, ← hk, List.getElem?_append_right le_rfl, Nat.sub_self, List.getElem?_cons_zero,
        Option.some.injEq] at hent
      have hread : Record.ofJsonText r.record.toJson = .ok x := by
        rw [hent] at he
        simp only [entryOf] at he
        cases hj : Record.ofJsonText r.record.toJson <;> simp_all [Except.toOption]
      have hcount := count_eraseIdx_add (s.owners d.path) d.kept.length (some i)
      simp only [hown, if_true] at hcount
      rw [hown, originOf]
      refine ⟨hacc.receivable, ?_, fun p hp₁ => ?_, fun q hq => ?_, fun hq => absurd hph (hq _),
        fun y hy => ?_, fun y hy => ?_⟩
      · rw [Server.count_append, if_neg (by simp), Nat.add_zero]; exact hacc.direct
      · rw [hph, Phase.queued.injEq] at hp₁
        subst hp₁
        have hq := hacc.queued _ hph
        dsimp only
        rw [Server.count_append, if_pos rfl, Function.update_self]
        omega
      · have hq' : q ≠ d.path := fun h' => hq (by rw [hph, h'])
        dsimp only
        rw [Function.update_of_ne hq']
        exact hacc.elsewhere q hq
      · rcases List.mem_append.1 hy with hy | hy
        · exact hacc.directRecord y hy
        · simp at hy
      · rcases List.mem_append.1 hy with hy | hy
        · exact hacc.replayedRecord y hy
        · simp only [List.mem_singleton, Prod.mk.injEq] at hy
          exact ⟨x, now, hread, hy.2⟩
    · exact hacc.append_other (originOf_ne_direct _ i) (mt originOf_eq_replayed.1 hown)
        (count_update_eraseIdx hown)
  · -- beyond: an entry queued for a request is for one already made
    dsimp only at hi
    have hown : (s.owners d.path)[d.kept.length]? ≠ some (some i) := fun hown => by
      obtain ⟨r, hr, -⟩ := h.tagged _ _ i hown
      have := (List.getElem?_eq_some_iff.1 hr).1
      omega
    exact (h.beyond i hi).append_other (originOf_ne_direct _ i) (mt originOf_eq_replayed.1 hown)
      (count_update_eraseIdx hown)

/-- A pass settling a file it has replayed: the file is gone when nothing is kept and holds
the kept entries otherwise, so the entries still to be stored stay the same, and every other
day file is as it was. -/
theorem Sound.settle {s : Server} (h : Sound dir s) {files : List Path} {d : Draining}
    {rep rep' : Report} {v : Volume} (hp : s.pass = some ⟨files, some d, rep⟩) (ht : d.todo = [])
    (hs : settleFile s.volume d.path d.body d.kept rep = .ok (v, rep')) :
    Sound dir { s with volume := v, pass := some ⟨files, none, rep'⟩ } := by
  have hdr : s.draining = some d := by simp [Server.draining, hp]
  obtain ⟨⟨n, hn, hpath⟩, hb, hkept, -⟩ := h.draining d hdr
  obtain ⟨hwf, hkeep, hframe, hat⟩ := settleFile_keeps h.wellFormed h.cwd hb hs
  have hloc := Volume.locate_congr hkeep.cwd
  have hraws : ∀ x ∈ d.kept, ¬ ('\n' :: fence) <:+: (Text.trim x).toList := fun x hx => by
    rw [(hkept x hx).2.1]; exact (hkept x hx).2.2
  -- the day files: the one settled holds its kept entries, the others are as they were
  have hday : ∀ t, entriesAt v (dayFile dir t) = s.pending (dayFile dir t) ∧
      ∀ b, v.nodeAt (v.locate (dayFile dir t)) = some (.file b) →
        ∃ d : String, b = d.toUTF8 ∧ Settled d.toList := by
    intro t
    by_cases htd : dayFile dir t = d.path
    · have hL : '\n' ∉ t.dateText.toList := Time.not_mem_dateText (by decide) (by decide) (by decide)
      have hlabel : (fileStem d.path).getD "" = t.dateText := by rw [← htd, fileStem_dayFile]; rfl
      rw [htd, pending_self hdr, ht, List.append_nil, hloc]
      rw [hlabel] at hat
      by_cases hk : d.kept = []
      · rw [if_pos hk] at hat
        refine ⟨by simp [entriesAt, hloc, hat, hk], fun b hb' => by rw [hat] at hb'; cases hb'⟩
      · rw [if_neg hk] at hat
        refine ⟨?_, fun b hb' => ?_⟩
        · rw [entriesAt_file (by rw [hloc]; exact hat), entriesOf_pendingFile hL hkept]
        · rw [hat, Option.some.injEq, Node.file.injEq] at hb'
          exact ⟨_, hb'.symm, settled_pendingFile hL hraws⟩
    · have hne₁ := locate_dayFile_ne_join s.volume hn (hpath ▸ htd)
      have hne₂ := locate_dayFile_ne_tmp s.volume dir t hn
      rw [← hpath] at hne₁ hne₂
      have hsame := hframe _ hne₁ hne₂
      rw [pending_of_ne hdr (Ne.symm htd), hloc, hsame]
      exact ⟨entriesAt_congr hkeep.cwd (.inl hsame), h.settled t⟩
  have hpend : ∀ p, Server.pending { s with volume := v, pass := some ⟨files, none, rep'⟩ } p =
      entriesAt v p := pending_of_draining_none rfl
  refine ⟨hwf, hkeep.cwd ▸ h.cwd, fun t => (hday t).2, fun q hq => ?_, fun d' hd' => ?_,
    fun t => ?_, h.untagged, fun p j i hj => ?_, fun i r hr => (h.accounted i r hr).congr rfl rfl,
    fun i hi => (h.beyond i hi).congr rfl rfl⟩
  · cases hq
    exact h.listed ⟨files, some d, rep⟩ hp
  · cases hd'
  · rw [hpend, (hday t).1]
    exact h.aligned t
  · obtain ⟨r, h₁, h₂, h₃, h₄⟩ := h.tagged p j i hj
    -- a file holding an entry queued for a request is a day file
    obtain ⟨t, rfl⟩ : IsDayFile dir p := by
      by_contra hnd
      exact absurd (h.untagged _ hnd _ (List.mem_of_getElem? hj)) (by simp)
    refine ⟨r, h₁, h₂, by rw [hpend, (hday t).1]; exact h₃, ?_⟩
    dsimp only
    rw [hloc]
    exact Volume.walk_of_keeps hkeep h₄

theorem Sound.step {rules : Classify.RuleSet} {s s' : Server} (h : Sound dir s)
    (hs : Step dir rules s s') : Sound dir s' := by
  cases hs with
  | receive q now hr => exact h.receive hr
  | create hi hr => exact h.create hi hr
  | refuse hi hr => exact h.refuse hi hr
  | enqueue now hfree hi hr he => exact h.enqueue hfree hi hr he
  | begin hfree hq => exact h.begin hfree hq
  | cancel hp => exact h.release hp
  | take hp hb => exact h.take hp hb
  | keepMalformed hp ht _ => exact h.keep hp ht
  | replay now hp ht he => exact h.replay now hp ht he
  | keepRefused hp ht _ => exact h.keep hp ht
  | settle hp ht hs => exact h.settle hp ht hs
  | finish hp => exact h.release hp

theorem Sound.of_reachable {rules : Classify.RuleSet} {s₀ s : Server} (h₀ : Sound dir s₀)
    (hs : Reachable dir rules s₀ s) : Sound dir s := by
  induction hs with
  | start => exact h₀
  | step _ hstep ih => exact ih.step hstep

/-- Whenever no pass holds the lock, where a request's record is: in the store once for a
request answered 201; for one answered 202, in the store once from a replay, or in exactly one
entry of its file, never both. -/
theorem Sound.at_rest {s : Server} (h : Sound dir s) (hfree : s.pass = none) {i : Nat}
    {r : Request} (hi : s.requests[i]? = some r) :
    (r.phase = .created → (Origin.direct i, r.record) ∈ s.stored ∧ s.count (.direct i) = 1 ∧
      s.count (.replayed i) = 0 ∧ ∀ q, some i ∉ s.owners q) ∧
    ∀ p, r.phase = .queued p → s.count (.direct i) = 0 ∧
      ((s.count (.replayed i) = 1 ∧ (∃ y now, Record.ofJsonText r.record.toJson = .ok y ∧
          (Origin.replayed i, y.withDefaults now) ∈ s.stored) ∧ ∀ q, some i ∉ s.owners q) ∨
        (s.count (.replayed i) = 0 ∧ ∃ (text : String) (j : Nat), s.volume.readText p = .ok text ∧
          (entriesOf text)[j]? = some (entryOf r.record.toJson) ∧
          ∀ q k, (s.owners q)[k]? = some (some i) ↔ q = p ∧ k = j)) := by
  have hacc := h.accounted i r hi
  refine ⟨fun hc => ?_, fun p hp => ⟨by simpa [hp] using hacc.direct, ?_⟩⟩
  · have hd : s.count (.direct i) = 1 := by simpa [hc] using hacc.direct
    obtain ⟨x, hx⟩ := Server.exists_of_count_pos (by omega : 0 < s.count (.direct i))
    rw [hacc.directRecord x hx] at hx
    exact ⟨hx, hd, hacc.unqueued (by simp [hc]), fun q => hacc.elsewhere q (by simp [hc])⟩
  have hq := hacc.queued p hp
  have helse : ∀ q, q ≠ p → some i ∉ s.owners q := fun q hqp =>
    hacc.elsewhere q (by rw [hp]; simpa using Ne.symm hqp)
  by_cases hrep : s.count (.replayed i) = 1
  · -- replayed once: no entry is left for it
    left
    obtain ⟨x, hx⟩ := Server.exists_of_count_pos (by omega : 0 < s.count (.replayed i))
    obtain ⟨y, now, hy, rfl⟩ := hacc.replayedRecord x hx
    refine ⟨hrep, ⟨y, now, hy, hx⟩, fun q => ?_⟩
    by_cases hqp : q = p
    · subst hqp
      exact List.count_eq_zero.1 (by omega)
    · exact helse q hqp
  · -- never replayed: exactly one entry is left for it, in its file
    right
    obtain ⟨k, hk, huniq⟩ := exists_getElem?_of_count_eq_one (by omega : (s.owners p).count (some i) = 1)
    obtain ⟨r', hr', -, hent, hwalk⟩ := h.tagged p k i hk
    rw [hi, Option.some.injEq] at hr'
    subst hr'
    rw [pending_of_draining_none (by simp [Server.draining, hfree])] at hent
    obtain ⟨t, rfl⟩ : IsDayFile dir p := by
      by_contra hnd
      exact absurd (h.untagged _ hnd _ (List.mem_of_getElem? hk)) (by simp)
    obtain ⟨text, hread, hentries⟩ :=
      readText_of_entriesAt hent hwalk (endsInSlash_join dir (isName_dayName t))
    refine ⟨by omega, text, k, hread, hentries ▸ hent, fun q k' => ⟨fun hq' => ?_, ?_⟩⟩
    · by_cases hqp : q = dayFile dir t
      · subst hqp
        exact ⟨rfl, huniq k' hq'⟩
      · exact absurd (List.mem_of_getElem? hq') (helse q hqp)
    · rintro ⟨rfl, rfl⟩
      exact hk

end Steps

/-- From a fresh server over a well-formed volume whose day files hold settled text, through any
interleaving of requests and passes, wherever no pass holds the lock: a request answered 201
has its record once in the store, from its own call, and no entry; a request answered 202 has,
by the entry queued for it, either its record once in the store from the replay of that entry
and no entry left, or exactly one entry left in its file, holding the record's JSON text and
valid, and nothing stored from it. -/
theorem acknowledged_records_kept {dir : Path} {rules : Classify.RuleSet} {v : Volume}
    (hv : v.WellFormed) (hc : ∀ n ∈ v.cwd, IsName n)
    (hdays : ∀ t b, v.nodeAt (v.locate (dayFile dir t)) = some (.file b) →
      ∃ d : String, b = d.toUTF8 ∧ Settled d.toList)
    {s : Server} (hs : Reachable dir rules (Server.start v) s) (hfree : s.pass = none)
    {i : Nat} {r : Request} (hi : s.requests[i]? = some r) :
    (r.phase = .created → (Origin.direct i, r.record) ∈ s.stored ∧ s.count (.direct i) = 1 ∧
      s.count (.replayed i) = 0 ∧ ∀ q, some i ∉ s.owners q) ∧
    ∀ p, r.phase = .queued p → s.count (.direct i) = 0 ∧
      ((s.count (.replayed i) = 1 ∧ (∃ y now, Record.ofJsonText r.record.toJson = .ok y ∧
          (Origin.replayed i, y.withDefaults now) ∈ s.stored) ∧ ∀ q, some i ∉ s.owners q) ∨
        (s.count (.replayed i) = 0 ∧ ∃ (text : String) (j : Nat),
          s.volume.readText p = .ok text ∧
          (entriesOf text)[j]? = some (entryOf r.record.toJson) ∧
          (entryOf r.record.toJson).isValid = true ∧
          ∀ q k, (s.owners q)[k]? = some (some i) ↔ q = p ∧ k = j)) := by
  have hsound := (Sound.start hv hc hdays).of_reachable hs
  obtain ⟨hcreated, hqueued⟩ := hsound.at_rest hfree hi
  -- an entry holding the record's text is valid: a receivable record reads back from it
  have hvalid : (entryOf r.record.toJson).isValid = true := by
    have hrec := (hsound.accounted i r hi).receivable
    obtain ⟨y, -, hy⟩ := Record.ofJsonText_toJson_ok hrec.storable hrec.finite
    simp [Entry.isValid, entryOf, hy, Except.toOption]
  refine ⟨hcreated, fun p hp => ?_⟩
  obtain ⟨hdirect, hrest⟩ := hqueued p hp
  refine ⟨hdirect, hrest.imp id ?_⟩
  rintro ⟨h0, text, j, hread, hj, howners⟩
  exact ⟨h0, text, j, hread, hj, hvalid, howners⟩

def epochRecord : Record := (⟨{}, {}⟩ : Submission).toRecord Classify.builtinRules ⟨0, 0⟩

def epochQueueText : String :=
  titleBlock (Time.Instant.dateText ⟨0, 0⟩) ++
    entryBlock (Time.Instant.wholeSecondsText ⟨0, 0⟩) epochRecord.toJson

def epochQueue : Volume :=
  ({ nodes := [(["q"], .directory)] } : Volume).put ["q", "1970-01-01.md"]
    (.file epochQueueText.toUTF8)

theorem acknowledged_records_kept_replayed :
    ∃ s, Reachable "q" Classify.builtinRules (Server.start {}) s ∧ s.pass = none ∧
      ∃ r : Request, s.requests[0]? = some r ∧ r.phase = .queued (dayFile "q" ⟨0, 0⟩) ∧
        s.count (.direct 0) = 0 ∧ s.count (.replayed 0) = 1 ∧
        ∃ y now, Record.ofJsonText r.record.toJson = .ok y ∧
          (Origin.replayed 0, y.withDefaults now) ∈ s.stored := by
  have hv : ({} : Volume).WellFormed := ⟨List.nodup_nil, by simp⟩
  have hdays : ∀ t b, ({} : Volume).nodeAt (({} : Volume).locate (dayFile "q" t)) =
      some (.file b) → ∃ d : String, b = d.toUTF8 ∧ Settled d.toList := by
    intro t b h
    unfold Volume.nodeAt at h
    split at h <;> simp at h
  have hnow : Time.Instant.Valid ⟨0, 0⟩ := ⟨by decide, by decide, by intro h; cases h⟩
  have hrec : Receivable epochRecord := by
    obtain ⟨c, cr, he⟩ := Record.classified_frame
      ({ ({} : Record) with id := "" }.withDefaults ⟨0, 0⟩) {} Classify.builtinRules
    rw [epochRecord, Submission.toRecord, he]
    have hzero : IsCount 0 := ⟨by decide, by decide⟩
    refine ⟨⟨hzero, hzero, hzero, ?_⟩, show (0.0 : Float).isFinite = true by decide⟩
    intro t ht
    simp [Record.withDefaults] at ht
    rw [← ht]
    exact hnow
  -- queueing the refused record writes the day file with its title and the record's block
  have hqueue : Queue.enqueue {} "q" epochRecord ⟨0, 0⟩ =
      .ok (epochQueue, dayFile "q" ⟨0, 0⟩) := by
    have hdir : ({} : Volume).createDirAll "q" = .ok { nodes := [(["q"], .directory)] } := by
      decide +kernel
    have hfree : ({ nodes := [(["q"], .directory)] } : Volume).node? (dayFile "q" ⟨0, 0⟩) = none := by
      decide +kernel
    have hwrite := Volume.writeText_of_walk (s := epochQueueText)
      (show ({ nodes := [(["q"], .directory)] } : Volume).walk (dayFile "q" ⟨0, 0⟩) =
        .ok ["q", "1970-01-01.md"] by decide +kernel)
      (show endsInSlash (dayFile "q" ⟨0, 0⟩) = false by decide +kernel) (by decide +kernel)
    simp only [Queue.enqueue, hdir, hfree, bind, Except.bind, Except.mapError, pure, Except.pure]
    rw [show titleBlock (Time.Instant.dateText ⟨0, 0⟩) ++
      entryBlock (Time.Instant.wholeSecondsText ⟨0, 0⟩) epochRecord.toJson = epochQueueText from rfl,
      hwrite]
    rfl
  -- the pass lists the day file, reads it, and finds the record's entry, which reads back
  have hfiles : queueFiles epochQueue "q" = .ok [dayFile "q" ⟨0, 0⟩] := by decide +kernel
  have hread : epochQueue.readText (dayFile "q" ⟨0, 0⟩) = .ok epochQueueText :=
    Volume.readText_of_walk (show epochQueue.walk (dayFile "q" ⟨0, 0⟩) = .ok ["q", "1970-01-01.md"] by
      decide +kernel) (by decide +kernel) rfl
  have hL : '\n' ∉ (Time.Instant.dateText ⟨0, 0⟩).toList :=
    Time.not_mem_dateText (by decide) (by decide) (by decide)
  have hentries : entriesOf epochQueueText = [entryOf epochRecord.toJson] := by
    have h := (entriesOf_append_entryBlock (settled_titleBlock hL)
      (Time.Instant.stamp_wholeSecondsText ⟨0, 0⟩) epochRecord).1
    rwa [entriesOf_titleBlock hL, List.nil_append] at h
  obtain ⟨y, -, hy⟩ := Record.ofJsonText_toJson_ok hrec.storable hrec.finite
  have hrecord : (entryOf epochRecord.toJson).record = some { epochRecord with costEstimate := y } := by
    rw [entryOf_record, hy]
    rfl
  have hsettle : settleFile epochQueue (dayFile "q" ⟨0, 0⟩) epochQueueText [] { flushed := 1 } =
      .ok (epochQueue.erase (epochQueue.locate (dayFile "q" ⟨0, 0⟩)),
        { flushed := 1, filesDeleted := 1 }) := by
    simp [settleFile, removeDrained_of_readText hread, Except.map]
  -- the trace: receive, refuse, queue, then a pass that replays the entry and deletes the file
  have h₁ : Reachable "q" Classify.builtinRules (Server.start {}) _ :=
    .step .start (.receive ⟨{}, {}⟩ ⟨0, 0⟩ hrec)
  have h₂ : Reachable "q" Classify.builtinRules (Server.start {}) _ :=
    .step h₁ (.refuse (i := 0) (r := ⟨_, .received⟩) rfl rfl)
  have h₃ : Reachable "q" Classify.builtinRules (Server.start {}) _ :=
    .step h₂ (.enqueue (i := 0) (r := ⟨_, .refused⟩) ⟨0, 0⟩ rfl rfl rfl hqueue)
  have h₄ : Reachable "q" Classify.builtinRules (Server.start {}) _ := .step h₃ (.begin rfl hfiles)
  have h₅ : Reachable "q" Classify.builtinRules (Server.start {}) _ := .step h₄ (.take rfl hread)
  rw [hentries] at h₅
  have h₆ : Reachable "q" Classify.builtinRules (Server.start {}) _ :=
    .step h₅ (.replay ⟨0, 0⟩ rfl rfl hrecord)
  have h₇ : Reachable "q" Classify.builtinRules (Server.start {}) _ :=
    .step h₆ (.settle rfl rfl hsettle)
  have h₈ : Reachable "q" Classify.builtinRules (Server.start {}) _ := .step h₇ (.finish rfl)
  refine ⟨_, h₈, rfl, _, rfl, rfl, ?_⟩
  obtain ⟨hdirect, hrest⟩ :=
    (acknowledged_records_kept hv (by simp) hdays h₈ rfl (i := 0) rfl).2 _ rfl
  rcases hrest with ⟨hone, hkept, -⟩ | ⟨hzero, -⟩
  · exact ⟨hdirect, hone, hkept⟩
  · -- the store holds the record by its replay
    simp [Server.count, originOf, Server.start, entriesAt, Volume.nodeAt] at hzero

end TurnLedger.Interleaving
