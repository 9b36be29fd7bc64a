import WatchHub.Proofs.Tree.Rebuild

/-!
# Listing a tree that is watched

A consumer lists a tree between two polls of an observer and then applies what the observer sends for
the later polls. A listing and the polls look at the tree on their own. So the consumer comes to know
every path that some later poll finds in another state than the polls before the listing, and for all
other paths it keeps what was listed (`TreeWatch.caught_up_of_run`). That is wrong only where the
listing saw what no poll sees: something that came and went between two polls
(`TreeWatch.kept_after_removal`).
-/

namespace WatchHub

/-- Every scan that succeeded found a path in the state that it has in a given one. -/
def Scan.Rests (s : Scan) (outcomes : List (Except ObserverFailure Scan)) (p : TreePath) : Prop :=
  ∀ cur, .ok cur ∈ outcomes → cur.get? p = s.get? p

namespace TreeWatch

open Poller

variable {o : TreeObserver} {root : String} {first found listed cur : Scan} {d : Disk}
  {items : List FileState} {moves more : List (Move (Except ObserverFailure Scan))}
  {w w' : Poller Scan (Event FileState)}
  {told later before after : List (Told (Except ObserverFailure Scan) (Event FileState))}
  {outcome : Except ObserverFailure Scan} {batch : List (Event FileState)} {p : TreePath}

/-- A path at rest is in the same state in the last successful scan. -/
lemma get?_latest {outcomes : List (Except ObserverFailure Scan)} (h : found.Rests outcomes p) :
    (found.latest outcomes).get? p = found.get? p := by
  rcases latest_cases found outcomes with heq | hmem
  · rw [heq]
  · exact h _ hmem

/-- The reports tell of a path unless every poll finds it as it was found before. -/
lemma Reported.silent_iff (h : Reported root found later) :
    (∀ e ∈ batches later, e.tells? p = none) ↔ found.Rests (Poller.outcomes later) p := by
  constructor
  · intro hsilent cur hcur
    -- Up to this poll nothing was told of the path either.
    obtain ⟨before, batch, after, hsplit⟩ := exists_poll hcur
    have hcut : later = (before ++ [.polled (.ok cur) batch]) ++ after := by rw [hsplit]; simp
    rw [hcut] at h hsilent
    have hcur := h.left.applyAll_batches
    rw [outcomes_append, latest_append] at hcur
    rw [← show found.applyAll _ = cur from hcur]
    refine Scan.get?_applyAll_of_silent fun e he => hsilent e ?_
    rw [batches_append]
    exact List.mem_append_left _ he
  · intro hrests e he
    obtain ⟨before, outcome, batch, after, hsplit, hmem⟩ := exists_batch he
    have hreport := h.reports _ _ _ _ hsplit
    cases outcome with
    | error failure =>
      obtain rfl : batch = [.error (reasonOf root failure)] := hreport
      rw [List.mem_singleton.1 hmem]
      rfl
    | ok cur =>
      obtain ⟨-, -, -, htells⟩ := hreport
      have hbefore : found.Rests (Poller.outcomes before) p := by
        intro scan hscan
        apply hrests
        rw [hsplit, outcomes_append]
        exact List.mem_append_left _ hscan
      have hsame : cur.get? p = (found.latest (Poller.outcomes before)).get? p := by
        rw [get?_latest hbefore]
        apply hrests
        rw [hsplit, outcomes_append]
        exact List.mem_append_right _ (List.mem_cons_self ..)
      have hnone := htells p
      rw [if_pos hsame] at hnone
      exact List.filterMap_eq_nil_iff.1 hnone e hmem

/-- What a consumer knows of a path after reports: what it knew if the path is at rest, and otherwise
the last successful scan. -/
lemma Reported.get?_known (h : Reported root found later) (known : Scan) (p : TreePath) :
    (found.Rests (Poller.outcomes later) p →
      (known.applyAll (batches later)).get? p = known.get? p) ∧
    (¬found.Rests (Poller.outcomes later) p →
      (known.applyAll (batches later)).get? p = (found.latest (Poller.outcomes later)).get? p) := by
  rw [← h.silent_iff]
  constructor
  · exact Scan.get?_applyAll_of_silent
  · intro htold
    push Not at htold
    rw [← h.applyAll_batches]
    exact Scan.get?_applyAll_of_tells htold

/-- A consumer is right after reports exactly if it was right about every path at rest. -/
lemma Reported.known_eq_iff (h : Reported root found later) (hlisted : listed.Ordered) :
    listed.applyAll (batches later) = found.latest (Poller.outcomes later) ↔
      ∀ p, found.Rests (Poller.outcomes later) p → listed.get? p = found.get? p := by
  constructor
  · intro heq p hrests
    rw [← (h.get?_known listed p).1 hrests, heq, get?_latest hrests]
  · intro hright
    refine (hlisted.applyAll _).ext h.ordered_latest fun p => ?_
    by_cases hrests : found.Rests (Poller.outcomes later) p
    · rw [(h.get?_known listed p).1 hrests, get?_latest hrests, hright p hrests]
    · exact (h.get?_known listed p).2 hrests

/-- A tree is listed after some polls of an observer, and then further polls are made. A consumer that
starts from what was listed and applies the reports of the further polls, which are what is sent from
then on, knows the last successful scan of every path that one of them finds in another state than the
polls before the listing; of the other paths it knows what was listed. So it comes to know the last
successful scan exactly if those other paths were listed as the polls found them, which is so if every
path was listed in a state in which the last poll before the listing or a later one found it. -/
theorem caught_up_of_run (hfirst : first.Ordered)
    (hscans : ∀ cur, .poll (.ok cur) ∈ moves ++ more → cur.Ordered)
    (hrun : (start o first).toPoller.run (news o.root) moves = some (w, told))
    (hlist : o.list d = .ok items) (hmore : w.run (news o.root) more = some (w', later)) :
    let found := first.latest (Poller.outcomes told)
    let now := found.latest (Poller.outcomes later)
    let known := (Scan.mk items).applyAll (batches later)
    d.scan o.root = .ok ⟨items⟩ ∧
    (∀ p, ¬found.Rests (Poller.outcomes later) p → known.get? p = now.get? p) ∧
    (∀ p, found.Rests (Poller.outcomes later) p →
      known.get? p = (Scan.mk items).get? p ∧ now.get? p = found.get? p) ∧
    (known = now ↔
      ∀ p, found.Rests (Poller.outcomes later) p → (Scan.mk items).get? p = found.get? p) ∧
    ((∀ p, (Scan.mk items).get? p = found.get? p ∨
        ∃ cur, .ok cur ∈ Poller.outcomes later ∧ (Scan.mk items).get? p = cur.get? p) →
      known = now) ∧
    (w'.stream.ended = false →
      sent later ++ w'.stream.blocked = w.stream.blocked ++ batches later) := by
  intro found now known
  have hall : Reported o.root first (told ++ later) := .of_run hfirst hscans (run_append hrun hmore)
  have h : Reported o.root found later := hall.right
  have hscan : d.scan o.root = .ok ⟨items⟩ := TreeObserver.scan_of_list hlist
  have hiff := h.known_eq_iff (Disk.ordered_scan hscan)
  refine ⟨hscan, fun p hmoved => (h.get?_known _ p).2 hmoved,
    fun p hrests => ⟨(h.get?_known _ p).1 hrests, get?_latest hrests⟩, hiff, fun hseen => ?_,
    (Accounts.of_run hrun).sent_since hmore⟩
  refine hiff.2 fun p hrests => ?_
  rcases hseen p with hfound | ⟨cur, hcur, hlater⟩
  · exact hfound
  · rw [hlater, hrests cur hcur]

/-- A disk with one directory, and these names in it. -/
def shelf (entries : List (String × Node)) (files : List FileData) : Disk :=
  ⟨.dir [(Disk.work, .dir []), ("r", .dir entries)], files⟩

/-- The path of the directory leads to it. -/
lemma locate_shelf {entries : List (String × Node)} {files : List FileData} {follow : Bool} :
    (shelf entries files).locate follow "/r" = .ok ⟨["r"], some (.dir entries)⟩ := by
  have hnames : PathText.names "/r" = ["r"] := by decide +kernel
  have habs : PathText.isAbsolute "/r" = true := by decide +kernel
  have hshort : Disk.isTooLong "/r" = false ∧ ¬Disk.nameLimit < "r".utf8ByteSize := by decide +kernel
  have hfind : Table.find? "r" [(Disk.work, Node.dir []), ("r", .dir entries)] =
      some (.dir entries) := rfl
  simp [Disk.locate, hnames, habs, hshort, shelf, Disk.resolve, Node.at?, hfind]

/-- In an empty directory a scan finds nothing. -/
lemma scan_shelf_nil {files : List FileData} : (shelf [] files).scan "/r" = .ok .empty := by
  have hshort : Disk.isTooLong "/r" = false := by decide +kernel
  simp [Disk.scan, Disk.visits, locate_shelf, Disk.visitsOf, Disk.visitsIn, TreePath.text, hshort,
    Scan.ofVisits, Scan.visit]

/-- A scan finds a file. -/
lemma scan_shelf_file (data : FileData) : (shelf [("a", .file 0)] [data]).scan "/r" =
    .ok ⟨[.of ⟨"/r", ["a"]⟩ data.bytes.length data.time? data.bytes]⟩ := by
  have hshort : Disk.isTooLong "/r" = false ∧ Disk.isTooLong (PathText.join "/r" "a") = false := by
    decide +kernel
  simp [Disk.scan, Disk.visits, locate_shelf, Disk.visitsOf, Disk.visitsIn, TreePath.text, hshort,
    Scan.ofVisits, Scan.visit, Scan.insert, Scan.empty]
  rfl

/-- A file was written. -/
def writtenDisk : Disk :=
  shelf [("a", .file 0)] [⟨[120], (1, 0)⟩]

/-- The file while it is there. -/
def writtenFile : FileState :=
  .of ⟨"/r", ["a"]⟩ 1 (some ⟨1, 0⟩) [120]

lemma list_writtenDisk :
    TreeObserver.list ⟨"/r", .standard⟩ writtenDisk = .ok [writtenFile] := by
  have hscan : writtenDisk.scan "/r" = .ok ⟨[writtenFile]⟩ := scan_shelf_file _
  unfold TreeObserver.list
  rw [hscan]

/-- A poll finds the file. -/
def arrival : List (Move (Except ObserverFailure Scan)) :=
  [.poll (.ok ⟨[writtenFile]⟩), .send]

/-- A scan fails, and a poll finds that the file is gone. -/
def departure : List (Move (Except ObserverFailure Scan)) :=
  [.poll (.error (.io "/r" .missing)), .send, .take, .poll (.ok .empty), .send]

theorem caught_up_of_departure :
    ∃ w told w' later, TreeObserver.list ⟨"/r", .standard⟩ writtenDisk = .ok [writtenFile] ∧
      (start ⟨"/r", .standard⟩ .empty).toPoller.run (news "/r") arrival = some (w, told) ∧
      w.run (news "/r") departure = some (w', later) ∧
      batches later = [.error (reasonOf "/r" (.io "/r" .missing)), .deleted writtenFile] ∧
      (Scan.mk [writtenFile]).applyAll (batches later) = .empty := by
  let w : Poller Scan (Event FileState) :=
    ⟨⟨[writtenFile]⟩, ⟨10, [.added writtenFile], [], false, false, false⟩⟩
  let failure : Event FileState := .error (reasonOf "/r" (.io "/r" .missing))
  have hrun : (start ⟨"/r", .standard⟩ .empty).toPoller.run (news "/r") arrival =
      some (w, [.polled (.ok ⟨[writtenFile]⟩) [.added writtenFile], .sent (.added writtenFile)]) := rfl
  have hmore : w.run (news "/r") departure =
      some (⟨.empty, ⟨10, [failure, .deleted writtenFile], [], false, false, false⟩⟩,
        [.polled (.error (.io "/r" .missing)) [failure], .sent failure, .taken (.added writtenFile),
          .polled (.ok .empty) [.deleted writtenFile], .sent (.deleted writtenFile)]) := rfl
  have hscans : ∀ cur, .poll (.ok cur) ∈ arrival ++ departure → cur.Ordered := by
    intro cur hcur
    simp only [arrival, departure, List.cons_append, List.nil_append, List.mem_cons,
      Move.poll.injEq, Except.ok.injEq, reduceCtorEq, false_or, List.not_mem_nil, or_false] at hcur
    rcases hcur with rfl | rfl
    · exact List.pairwise_singleton ..
    · exact Scan.Ordered.empty
  obtain ⟨-, -, -, -, hcaught, -⟩ :=
    caught_up_of_run (o := ⟨"/r", .standard⟩) Scan.Ordered.empty hscans hrun list_writtenDisk hmore
  exact ⟨_, _, _, _, list_writtenDisk, hrun, hmore, rfl, hcaught fun p => .inl rfl⟩

/-- A file is written after the first scan, listed, and removed before the next poll. That poll finds
nothing new and sends nothing, and the consumer keeps a file that is not there any more. -/
theorem kept_after_removal :
    ∃ w told, (shelf [] []).scan "/r" = .ok .empty ∧
      TreeObserver.list ⟨"/r", .standard⟩ writtenDisk = .ok [writtenFile] ∧
      (start ⟨"/r", .standard⟩ .empty).toPoller.run (news "/r")
        [.poll ((shelf [] []).scan "/r")] = some (w, told) ∧
      w.stream.isIdle = true ∧ batches told = [] ∧
      (Scan.mk [writtenFile]).applyAll (batches told) ≠ Scan.empty.latest (Poller.outcomes told) := by
  have hbare : (shelf [] []).scan "/r" = .ok .empty := scan_shelf_nil
  rw [hbare]
  exact ⟨_, _, rfl, list_writtenDisk, rfl, rfl, rfl, nofun⟩

end TreeWatch

end WatchHub
