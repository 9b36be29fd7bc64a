import Mathlib.Data.List.Nodup
import WatchHub.Proofs.Tree.CatchUp
import WatchHub.Proofs.Tree.Names

/-!
# What a listing has

A walk through a tree that fails nowhere comes once upon everything that is reached through directories
(`Disk.Walked`). In whatever order it does, the scan that is made of it has the state of each regular
file that is reached and nothing else, in the order of the paths (`Disk.Walked.ofVisits_eq`); a walk that
fails makes its first failure. A walk through a disk is such a walk unless a path has grown too long
(`Disk.walked_visitsOf`). So it is known what a listing has (`TreeObserver.listed_of_tree`).
-/

namespace WatchHub

/-! ### Paths -/

namespace TreePath

variable {p : TreePath} {names names' : List String}

/-- The path of what is found under names below a path. -/
def down (p : TreePath) (names : List String) : TreePath :=
  ⟨p.root, p.below ++ names⟩

@[simp]
lemma down_nil (p : TreePath) : p.down [] = p := by
  simp [down]

@[simp]
lemma down_down (p : TreePath) (names names' : List String) :
    (p.down names).down names' = p.down (names ++ names') := by
  simp [down]

@[simp]
lemma down_inj : p.down names = p.down names' ↔ names = names' := by
  simp [down]

/-- A path made longer starts with the path as it was. -/
lemma exists_text_append (names : List String) (path : String) :
    ∃ rest, names.foldl PathText.join path = path ++ rest := by
  induction names generalizing path with
  | nil => exact ⟨"", String.append_empty.symm⟩
  | cons name names ih =>
    obtain ⟨rest, hrest⟩ := ih (PathText.join path name)
    rw [List.foldl_cons, hrest, PathText.join]
    split
    · exact ⟨name ++ rest, String.append_assoc⟩
    · exact ⟨"/" ++ name ++ rest, by simp [String.append_assoc]⟩

/-- A name is put behind the same text, whatever the name is. -/
lemma exists_join (path : String) : ∃ start, ∀ name, PathText.join path name = start ++ name := by
  unfold PathText.join
  split
  · exact ⟨path, fun _ => rfl⟩
  · exact ⟨path ++ "/", fun _ => rfl⟩

/-- What is in a directory comes before a neighbour of the directory whose name goes on with a character
before the slash. The text of its path comes behind. -/
lemma parts_lt_and_text_lt {above more : List String} {name inner rest : String} {c : Char}
    (root : String) (hname : name ≠ "") (hplain : '/' ∉ name.toList) (hc : c < '/') :
    let p : TreePath := ⟨root, above ++ name :: inner :: more⟩
    let q : TreePath := ⟨root, above ++ [name.push c ++ rest]⟩
    p.parts < q.parts ∧ q.text < p.text := by
  intro p q
  constructor
  · refine List.cons_lt_cons_iff.2 (.inr ⟨rfl, List.append_left_lt (List.cons_lt_cons_iff.2 (.inl ?_))⟩)
    rw [String.lt_iff_toList_lt]
    have hlt : name.toList ++ [] < name.toList ++ c :: rest.toList :=
      List.append_left_lt (List.nil_lt_cons ..)
    simpa using hlt
  · obtain ⟨start, hstart⟩ := exists_join (above.foldl PathText.join root)
    have hslash : PathText.hasSlashes (start ++ name) = false := by
      obtain ⟨a, ha⟩ := Option.ne_none_iff_exists'.1
        (mt List.getLast?_eq_none_iff.1 (mt String.toList_eq_nil_iff.1 hname))
      have hne : a ≠ '/' := fun h => hplain (h ▸ List.mem_of_getLast? ha)
      simp [PathText.hasSlashes, List.getLast?_append, ha, hne]
    obtain ⟨tail, htail⟩ := exists_text_append more (start ++ name ++ "/" ++ inner)
    have hp : p.text = start ++ name ++ "/" ++ inner ++ tail := by
      rw [text, List.foldl_append, List.foldl_cons, List.foldl_cons, hstart, PathText.join, hslash,
        if_neg Bool.false_ne_true, htail]
    have hq : q.text = start ++ (name.push c ++ rest) := by
      rw [text, List.foldl_append, List.foldl_cons, hstart]
      rfl
    have hlt : start.toList ++ (name.toList ++ c :: rest.toList) <
        start.toList ++ (name.toList ++ '/' :: (inner.toList ++ tail.toList)) :=
      List.append_left_lt (List.append_left_lt (List.cons_lt_cons_iff.2 (.inl hc)))
    rw [hp, hq, String.lt_iff_toList_lt]
    simpa using hlt

end TreePath

/-! ### Walks -/

namespace Visit

/-- The failure of a walk that came upon something that it could not look at. -/
def failure? : Visit → Option ObserverFailure
  | .file path _ _ (.error reason) => some (.io path.text reason)
  | .fault path reason => some (.io path (Scan.walkFault path reason))
  | _ => none

/-- The state of the file that a walk came upon. -/
def state? : Visit → Option FileState
  | .file path size modified (.ok bytes) => some (.of path size modified bytes)
  | _ => none

end Visit

namespace Scan

variable {walk : List Visit} {s : Scan} {f : FileState} {states : List FileState}
  {e : ObserverFailure}

/-- A walk makes its first failure, or else the scan with the states of its files. -/
lemma foldlM_visit (walk : List Visit) (s : Scan) :
    walk.foldlM visit s = match walk.findSome? Visit.failure? with
      | some e => .error e
      | none => .ok ((walk.filterMap Visit.state?).foldl insert s) := by
  induction walk generalizing s with
  | nil => rfl
  | cons v walk ih =>
    rw [List.foldlM_cons]
    cases v with
    | file path size modified content =>
      cases content with
      | ok bytes => exact ih (s.insert (.of path size modified bytes))
      | error fault => rfl
    | other path => exact ih s
    | fault path fault => rfl

lemma ofVisits_eq_error_iff :
    ofVisits walk = .error e ↔ walk.findSome? Visit.failure? = some e := by
  rw [ofVisits, foldlM_visit]
  cases walk.findSome? Visit.failure? <;> simp

lemma ofVisits_eq_ok (h : ∀ v ∈ walk, v.failure? = none) :
    ofVisits walk = .ok ((walk.filterMap Visit.state?).foldl insert .empty) := by
  rw [ofVisits, foldlM_visit, List.findSome?_eq_none_iff.2 h]

lemma ordered_foldl_insert (states : List FileState) : (states.foldl insert .empty).Ordered := by
  induction states using List.reverseRecOn with
  | nil => exact Ordered.empty
  | append_singleton states g ih =>
    rw [List.foldl_append]
    exact ih.insert g

/-- If the states agree on the paths that they have in common, then they are the files. -/
lemma mem_foldl_insert (h : ∀ f ∈ states, ∀ g ∈ states, f.path = g.path → f = g) :
    f ∈ (states.foldl insert .empty).files ↔ f ∈ states := by
  have hmem : ∀ (states : List FileState) (f : FileState),
      f ∈ (states.foldl insert .empty).files ↔ (states.foldl insert .empty).get? f.path = some f := by
    intro states f
    rw [(ordered_foldl_insert states).get?_eq_some_iff, and_iff_left rfl]
  induction states using List.reverseRecOn with
  | nil => rfl
  | append_singleton states g ih =>
    have hrest : ∀ f ∈ states, ∀ g ∈ states, f.path = g.path → f = g := fun f hf g hg =>
      h f (List.mem_append_left _ hf) g (List.mem_append_left _ hg)
    rw [hmem, List.foldl_append, List.foldl_cons, List.foldl_nil, get?_insert, List.mem_append,
      List.mem_singleton]
    split
    · -- A state of the same path is the last one.
      rename_i hpath
      rw [Option.some_inj, eq_comm, or_iff_right_of_imp]
      intro hf
      exact h f (List.mem_append_left _ hf) g (List.mem_append_right _ (List.mem_singleton_self g))
        hpath.symm
    · rename_i hpath
      have hne : f ≠ g := fun heq => hpath (heq ▸ rfl)
      rw [or_iff_left hne]
      exact (hmem states f).symm.trans (ih hrest)

end Scan

namespace Disk

variable {d : Disk} {root : String} {path : TreePath} {node m : Node} {walk walk' : List Visit}
  {names : List String} {entries : List (String × Node)}

/-- What a walk tells of something that it can look at. -/
def tell (d : Disk) (path : TreePath) : Node → Visit
  | .file n => .file path (d.fileAt n).bytes.length (d.fileAt n).time? (.ok (d.fileAt n).bytes)
  | .dir _ | .link _ => .other path

/-- The state in which a walk finds a numbered file at a path. -/
def stateAt (d : Disk) (path : TreePath) (n : Nat) : FileState :=
  .of path (d.fileAt n).bytes.length (d.fileAt n).time? (d.fileAt n).bytes

/-- A walk from a node on comes upon everything that is reached through directories, once upon each, and
upon nothing else. No link is followed, and the order is not determined. -/
structure Walked (d : Disk) (path : TreePath) (node : Node) (walk : List Visit) : Prop where
  mem_iff : ∀ {v}, v ∈ walk ↔ ∃ below m, node.at? below = some m ∧ v = d.tell (path.down below) m
  once : walk.Nodup

@[simp]
lemma failure?_tell (d : Disk) (path : TreePath) (m : Node) : (d.tell path m).failure? = none := by
  cases m <;> rfl

lemma state?_tell_eq_some_iff {f : FileState} :
    (d.tell path m).state? = some f ↔ ∃ n, m = .file n ∧ f = d.stateAt path n := by
  cases m with
  | file n => simp [tell, Visit.state?, stateAt, eq_comm]
  | dir | link => simp [tell, Visit.state?]

/-- Of one path one thing is told. -/
lemma path_eq_of_tell {path' : TreePath} {m' : Node} (h : d.tell path m = d.tell path' m') :
    path = path' := by
  cases m <;> cases m' <;> simp_all [tell]

namespace Walked

lemma failure?_eq_none (h : d.Walked path node walk) : ∀ v ∈ walk, v.failure? = none := by
  intro v hv
  obtain ⟨below, m, -, rfl⟩ := h.mem_iff.1 hv
  exact failure?_tell ..

lemma mem_states_iff (h : d.Walked path node walk) {f : FileState} :
    f ∈ walk.filterMap Visit.state? ↔
      ∃ below n, node.at? below = some (.file n) ∧ f = d.stateAt (path.down below) n := by
  rw [List.mem_filterMap]
  constructor
  · rintro ⟨v, hv, hf⟩
    obtain ⟨below, m, hm, rfl⟩ := h.mem_iff.1 hv
    obtain ⟨n, rfl, rfl⟩ := state?_tell_eq_some_iff.1 hf
    exact ⟨below, n, hm, rfl⟩
  · rintro ⟨below, n, hn, rfl⟩
    exact ⟨_, h.mem_iff.2 ⟨below, _, hn, rfl⟩, state?_tell_eq_some_iff.2 ⟨n, rfl, rfl⟩⟩

/-- A walk makes an ordered scan with the states of the files that are reached. -/
theorem ofVisits_eq (h : d.Walked path node walk) :
    ∃ s, Scan.ofVisits walk = .ok s ∧ s.Ordered ∧ ∀ f, f ∈ s.files ↔
      ∃ below n, node.at? below = some (.file n) ∧ f = d.stateAt (path.down below) n := by
  refine ⟨_, Scan.ofVisits_eq_ok h.failure?_eq_none, Scan.ordered_foldl_insert _, fun f => ?_⟩
  rw [Scan.mem_foldl_insert, h.mem_states_iff]
  -- The path tells under which names a file was reached, and so which file it is.
  intro f hf g hg hpath
  obtain ⟨below, n, hn, rfl⟩ := h.mem_states_iff.1 hf
  obtain ⟨below', n', hn', rfl⟩ := h.mem_states_iff.1 hg
  obtain rfl : below = below' := TreePath.down_inj.1 hpath
  rw [hn] at hn'
  cases hn'
  rfl

/-- The order of a walk makes no difference. -/
theorem ofVisits_congr (h : d.Walked path node walk) (h' : d.Walked path node walk') :
    Scan.ofVisits walk = Scan.ofVisits walk' := by
  obtain ⟨s, hs, hordered, hmem⟩ := h.ofVisits_eq
  obtain ⟨s', hs', hordered', hmem'⟩ := h'.ofVisits_eq
  have heq : s = s' := by
    refine hordered.ext hordered' fun p => Option.ext fun f => ?_
    rw [hordered.get?_eq_some_iff, hordered'.get?_eq_some_iff, hmem, hmem']
  rw [hs, hs', heq]

/-- A walk through a directory is made of a walk through each of its entries. -/
lemma dir (hdistinct : (Node.dir entries).Distinct) {walks : String × Node → List Visit}
    (h : ∀ e ∈ entries, d.Walked (path.down [e.1]) e.2 (walks e)) :
    d.Walked path (.dir entries) (d.tell path (.dir entries) :: entries.flatMap walks) := by
  have hmem : ∀ {e v}, e ∈ entries → (v ∈ walks e ↔
      ∃ below m, e.2.at? below = some m ∧ v = d.tell (path.down (e.1 :: below)) m) := by
    intro e v he
    rw [(h e he).mem_iff]
    simp
  refine ⟨fun {v} => ?_, List.nodup_cons.2 ⟨fun hself => ?_, List.nodup_flatMap.2
    ⟨fun e he => (h e he).once, ?_⟩⟩⟩
  · rw [List.mem_cons, List.mem_flatMap]
    constructor
    · rintro (rfl | ⟨e, he, hv⟩)
      · exact ⟨[], _, rfl, by rw [TreePath.down_nil]⟩
      · obtain ⟨below, m, hm, rfl⟩ := (hmem he).1 hv
        exact ⟨e.1 :: below, m, hdistinct.at?_dir_iff.2 (.inr ⟨e, he, below, rfl, hm⟩), rfl⟩
    · rintro ⟨names, m, hm, rfl⟩
      rcases hdistinct.at?_dir_iff.1 hm with ⟨rfl, rfl⟩ | ⟨e, he, below, rfl, hbelow⟩
      · exact .inl (by rw [TreePath.down_nil])
      · exact .inr ⟨e, he, (hmem he).2 ⟨below, m, hbelow, rfl⟩⟩
  · -- What is below the directory has another path.
    obtain ⟨e, he, hself⟩ := List.mem_flatMap.1 hself
    obtain ⟨below, m, -, htell⟩ := (hmem he).1 hself
    have hpath := path_eq_of_tell htell
    rw [← path.down_nil, TreePath.down_down, TreePath.down_inj] at hpath
    cases hpath
  · -- What is below entries of different names has different paths.
    have hnames := (Node.distinct_dir_iff.1 hdistinct).1
    refine (List.pairwise_map.1 hnames).imp_of_mem fun {e e'} he he' hne => ?_
    intro v hv hv'
    obtain ⟨below, m, -, rfl⟩ := (hmem he).1 hv
    obtain ⟨below', m', -, htell⟩ := (hmem he').1 hv'
    exact hne (List.cons.inj (TreePath.down_inj.1 (path_eq_of_tell htell))).1

end Walked

/-! ### Walks through a disk -/

lemma visitsIn_eq_flatMap (d : Disk) (path : TreePath) (entries : List (String × Node)) :
    d.visitsIn path entries = entries.flatMap fun e => d.visitsOf (path.down [e.1]) e.2 := by
  induction entries with
  | nil => rfl
  | cons e entries ih => rw [visitsIn, ih, List.flatMap_cons, TreePath.down]

/-- A walk through a disk fails if something is to be opened whose path is too long. -/
lemma failure_visitsOf_iff (hdistinct : node.Distinct) :
    (∃ v ∈ d.visitsOf path node, v.failure? ≠ none) ↔
      ∃ below m, node.at? below = some m ∧ (∀ target, m ≠ .link target) ∧
        isTooLong (path.down below).text = true := by
  induction node using Node.byEntries generalizing path with
  | file n =>
    simp only [Node.at?_file_eq_some_iff]
    unfold visitsOf
    by_cases hlong : isTooLong path.text = true <;> simp [hlong, Visit.failure?]
  | link target =>
    simp only [Node.at?_link_eq_some_iff]
    simp [visitsOf, Visit.failure?]
  | dir entries ih =>
    have hentries := (Node.distinct_dir_iff.1 hdistinct).2
    unfold visitsOf
    by_cases hlong : isTooLong path.text = true
    · simp only [hlong, if_true]
      refine iff_of_true ⟨_, List.mem_singleton_self _, by simp [Visit.failure?]⟩
        ⟨[], _, rfl, by simp, ?_⟩
      rwa [TreePath.down_nil]
    · simp only [hlong]
      constructor
      · rintro ⟨v, hv, hfailure⟩
        rcases List.mem_cons.1 hv with rfl | hv
        · exact absurd rfl hfailure
        · rw [visitsIn_eq_flatMap, List.mem_flatMap] at hv
          obtain ⟨e, he, hv⟩ := hv
          obtain ⟨below, m, hm, hopen, hlong⟩ := (ih e he (hentries e he)).1 ⟨v, hv, hfailure⟩
          refine ⟨e.1 :: below, m, hdistinct.at?_dir_iff.2 (.inr ⟨e, he, below, rfl, hm⟩), hopen, ?_⟩
          rwa [TreePath.down_down] at hlong
      · rintro ⟨names, m, hm, hopen, hlong'⟩
        rcases hdistinct.at?_dir_iff.1 hm with ⟨rfl, rfl⟩ | ⟨e, he, below, rfl, hbelow⟩
        · rw [TreePath.down_nil] at hlong'
          exact absurd hlong' hlong
        · have hdown : isTooLong ((path.down [e.1]).down below).text = true := by
            rwa [TreePath.down_down]
          obtain ⟨v, hv, hfailure⟩ := (ih e he (hentries e he)).2 ⟨below, m, hbelow, hopen, hdown⟩
          refine ⟨v, List.mem_cons_of_mem _ ?_, hfailure⟩
          rw [visitsIn_eq_flatMap]
          exact List.mem_flatMap.2 ⟨e, he, hv⟩

/-- A walk through a disk that fails nowhere comes once upon everything that is reached. -/
lemma walked_visitsOf (hdistinct : node.Distinct)
    (h : ∀ v ∈ d.visitsOf path node, v.failure? = none) :
    d.Walked path node (d.visitsOf path node) := by
  induction node using Node.byEntries generalizing path with
  | file n =>
    have hvisits : d.visitsOf path (.file n) = [d.tell path (.file n)] := by
      unfold visitsOf at h ⊢
      split_ifs at h ⊢
      · simp [Visit.failure?] at h
      · rfl
    rw [hvisits]
    exact ⟨by simp [Node.at?_file_eq_some_iff], List.nodup_singleton _⟩
  | link target =>
    exact ⟨by simp [Node.at?_link_eq_some_iff, visitsOf, tell], List.nodup_singleton _⟩
  | dir entries ih =>
    have hentries := (Node.distinct_dir_iff.1 hdistinct).2
    have hvisits : d.visitsOf path (.dir entries) =
        d.tell path (.dir entries) ::
          entries.flatMap fun e => d.visitsOf (path.down [e.1]) e.2 := by
      rw [visitsOf] at h ⊢
      split_ifs at h ⊢
      · simp [Visit.failure?] at h
      · rw [visitsIn_eq_flatMap]
        rfl
    rw [hvisits] at h ⊢
    refine .dir hdistinct fun e he => ih e he (hentries e he) fun v hv => h v ?_
    exact List.mem_cons_of_mem _ (List.mem_flatMap.2 ⟨e, he, hv⟩)

/-- What a root stands for: a file, a directory, or the directory to which a link leads. -/
inductive Roots (d : Disk) (root : String) : Node → Prop
  | file {names : List String} {n : Nat} :
    d.locate false root = .ok ⟨names, some (.file n)⟩ → Roots d root (.file n)
  | dir {names : List String} {entries : List (String × Node)} :
    d.locate false root = .ok ⟨names, some (.dir entries)⟩ → Roots d root (.dir entries)
  | link {names names' : List String} {target : String} {entries : List (String × Node)} :
    d.locate false root = .ok ⟨names, some (.link target)⟩ →
    d.locate true root = .ok ⟨names', some (.dir entries)⟩ → Roots d root (.dir entries)

lemma Roots.distinct (hd : d.top.Distinct) (h : d.Roots root node) : node.Distinct := by
  cases h with
  | file h | dir h | link _ h => exact hd.at (at?_of_locate h)

/-- A walk starts at what the root stands for. -/
lemma Roots.visits_eq (h : d.Roots root node) : d.visits root = d.visitsOf ⟨root, []⟩ node := by
  cases h with
  | file h | dir h => simp [visits, h]
  | link hlink h =>
    have hshort : isTooLong (TreePath.text ⟨root, []⟩) = false := by
      unfold locate at h
      split_ifs at h with _ _ hlong <;> exact Bool.eq_false_iff.2 hlong
    simp [visits, hlink, h, visitsOf, hshort]

end Disk

namespace TreeObserver

variable {o : TreeObserver} {d : Disk} {items : List FileState} {failure : ObserverFailure}

/-- What is listed are the files of a scan. -/
lemma list_eq_ok_iff : o.list d = .ok items ↔ d.scan o.root = .ok ⟨items⟩ := by
  unfold list
  cases d.scan o.root with
  | ok s =>
    cases s
    simp
  | error e => simp

/-- A listing fails as its scan fails. -/
lemma list_eq_error_iff :
    o.list d = .error failure ↔ ∃ e, d.scan o.root = .error e ∧ failure = .list "file" e.message := by
  unfold list
  cases d.scan o.root with
  | ok s => simp
  | error e => simp [name, eq_comm]

/-- Below a root in a tree, a walk that fails nowhere and comes once upon each thing that is reached
through directories makes the scan of the regular files: one state for each, with the size, the time and
the digest of the first bytes of the content, none for anything else, and in the order of the paths. No
other order of the walk makes another scan. A walk that fails makes its first failure and no scan. The walk
through a disk is such a walk, unless something is to be opened whose path is too long. A listing has the
files of this scan, or tells of this failure. The order of the paths is not that of their texts: what is in
a directory comes before a neighbour whose name goes on with a character before the slash, though its text
comes behind. -/
theorem listed_of_tree {root : String} {node : Node} (htree : d.top.Distinct)
    (hroot : d.Roots root node) :
    (∀ walk, d.Walked ⟨root, []⟩ node walk → ∃ s : Scan, Scan.ofVisits walk = .ok s ∧
      (s.files.Pairwise fun f g => f.path.parts < g.path.parts) ∧
      (∀ f, f ∈ s.files ↔ ∃ below n, node.at? below = some (.file n) ∧
        f = ⟨⟨root, below⟩, (d.fileAt n).bytes.length, (d.fileAt n).time?,
          Blake3.hexDigest ((d.fileAt n).bytes.take 8192)⟩) ∧
      (∀ below m, node.at? below = some m → (∀ n, m ≠ .file n) →
        ∀ f ∈ s.files, f.path ≠ ⟨root, below⟩) ∧
      ∀ walk', d.Walked ⟨root, []⟩ node walk' → Scan.ofVisits walk' = .ok s) ∧
    (∀ walk e, Scan.ofVisits walk = .error e ↔ ∃ before v after, walk = before ++ v :: after ∧
      v.failure? = some e ∧ ∀ u ∈ before, u.failure? = none) ∧
    ((∀ v ∈ d.visits root, v.failure? = none) → d.Walked ⟨root, []⟩ node (d.visits root)) ∧
    ((∃ v ∈ d.visits root, v.failure? ≠ none) ↔ ∃ below m, node.at? below = some m ∧
      (∀ target, m ≠ .link target) ∧ Disk.isTooLong (TreePath.text ⟨root, below⟩) = true) ∧
    (∀ poll items, list ⟨root, poll⟩ d = .ok items ↔ Scan.ofVisits (d.visits root) = .ok ⟨items⟩) ∧
    (∀ poll failure, list ⟨root, poll⟩ d = .error failure ↔
      ∃ e, Scan.ofVisits (d.visits root) = .error e ∧ failure = .list "file" e.message) ∧
    ∀ (above more : List String) (name inner rest : String) (c : Char),
      name ≠ "" → '/' ∉ name.toList → c < '/' →
      TreePath.parts ⟨root, above ++ name :: inner :: more⟩ <
        TreePath.parts ⟨root, above ++ [name.push c ++ rest]⟩ ∧
      TreePath.text ⟨root, above ++ [name.push c ++ rest]⟩ <
        TreePath.text ⟨root, above ++ name :: inner :: more⟩ := by
  have hdistinct := hroot.distinct htree
  refine ⟨fun walk hwalk => ?_, fun walk e => Scan.ofVisits_eq_error_iff.trans
    List.findSome?_eq_some_iff, ?_, ?_, fun _ _ => list_eq_ok_iff, fun _ _ => list_eq_error_iff,
    fun above more name inner rest c => TreePath.parts_lt_and_text_lt root⟩
  · obtain ⟨s, hs, hordered, hmem⟩ := hwalk.ofVisits_eq
    refine ⟨s, hs, hordered, hmem, fun below m hm hfile f hf hpath => ?_, fun walk' hwalk' => ?_⟩
    · obtain ⟨below', n, hn, rfl⟩ := (hmem f).1 hf
      obtain rfl : below' = below := TreePath.down_inj.1 hpath
      rw [hm] at hn
      exact hfile n (Option.some.inj hn)
    · rw [← hs, hwalk'.ofVisits_congr hwalk]
  · rw [hroot.visits_eq]
    exact Disk.walked_visitsOf hdistinct
  · rw [hroot.visits_eq]
    exact Disk.failure_visitsOf_iff hdistinct

theorem listed_of_shelf :
    let entries : List (String × Node) :=
      [("a.b", .file 1), ("a", .dir [("x", .file 0)]), ("s", .link "/r/a")]
    let d := TreeWatch.shelf entries [⟨[120], (1, 0)⟩, ⟨[121, 122], (2, 0)⟩]
    d.top.Distinct ∧ d.Roots "/r" (.dir entries) ∧
      ∃ items, list ⟨"/r", .standard⟩ d = .ok items ∧
        ⟨⟨"/r", ["a", "x"]⟩, 1, some ⟨1, 0⟩, Blake3.hexDigest [120]⟩ ∈ items ∧
        (∀ f ∈ items, f.path ≠ ⟨"/r", ["s"]⟩) ∧
        TreePath.parts ⟨"/r", ["a", "x"]⟩ < TreePath.parts ⟨"/r", ["a.b"]⟩ ∧
        TreePath.text ⟨"/r", ["a.b"]⟩ < TreePath.text ⟨"/r", ["a", "x"]⟩ := by
  intro entries d
  have htree : d.top.Distinct := by
    simp [d, entries, TreeWatch.shelf, Node.distinct_dir_iff, Node.distinct_leaf, Disk.work]
  have hroot : d.Roots "/r" (.dir entries) := .dir TreeWatch.locate_shelf
  have hshort : Disk.isTooLong "/r" = false ∧ Disk.isTooLong (PathText.join "/r" "a.b") = false ∧
      Disk.isTooLong (PathText.join "/r" "a") = false ∧
      Disk.isTooLong (PathText.join (PathText.join "/r" "a") "x") = false := by
    decide +kernel
  have hnone : ∀ v ∈ d.visits "/r", v.failure? = none := by
    rw [hroot.visits_eq]
    simp [entries, Disk.visitsOf, Disk.visitsIn, TreePath.text, hshort, Visit.failure?]
  obtain ⟨hwalks, -, hwalked, -, hlist, -, horder⟩ := listed_of_tree htree hroot
  obtain ⟨s, hs, -, hfiles, hothers, -⟩ := hwalks _ (hwalked hnone)
  refine ⟨htree, hroot, s.files, (hlist _ _).2 hs, (hfiles _).2 ⟨["a", "x"], 0, rfl, rfl⟩,
    hothers ["s"] _ rfl (by simp), ?_⟩
  exact horder [] [] "a" "x" "b" '.' (by decide) (by decide) (by decide)

end TreeObserver

end WatchHub
