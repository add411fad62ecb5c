import Mathlib.Data.List.Sort
import Mathlib.Data.List.TakeWhile
import Mathlib.Data.String.Basic
import Sift.Input.Source

/-!
# What discovery finds

Standard input and files stand for themselves, and a directory stands for the files of records below
it.

**Trees.** In a proper tree entries have names that can stand in paths, no two entries of a
directory have the same name, and nothing stops a walk (`FileTree.IsProper`). Then the names that
lead to a file lead to no other one (`FileTree.IsProper.nodup_files`), and a walk comes to its end
(`FileTree.IsProper.obstacle?`).

**Order.** Names that lead to files are compared name by name, which is how the paths made from them
are compared (`Path.components_join`). So `-` before `/` in the code table does not matter:
`d/a/q.json` comes before `d/a-.json`.

**Main result.** Discovery fails at the first path that leads nowhere. Otherwise it puts together
what the paths stand for, and the order in which directories list their entries does not show
(`Source.discover_paths`).
-/

namespace Sift

/-! ## Paths -/

namespace Path

/-- The names in a path; single dots and what is empty between slashes are none. -/
def components (path : List Char) : List String :=
  ((pieces path).filter fun piece => piece ≠ [] ∧ piece ≠ ['.']).map String.ofList

/-- A name that an entry of a directory can have. -/
structure IsName (name : String) : Prop where
  ne_nil : name.toList ≠ []
  ne_dot : name.toList ≠ ['.']
  ne_dots : name.toList ≠ ['.', '.']
  slash : '/' ∉ name.toList

/-- The name has the extension of a file of records, behind more than a dot. -/
def IsRecordName (name : String) : Prop :=
  ∃ stem ≠ [], ∃ extension ∈ ["json", "jsonl"], name.toList = stem ++ '.' :: extension.toList

variable {name : String} {names : List String} {path : List Char}

theorem isName_iff : IsName name ↔ name.toList ≠ [] ∧ name.toList ≠ ['.'] ∧
    name.toList ≠ ['.', '.'] ∧ '/' ∉ name.toList :=
  ⟨fun h => ⟨h.1, h.2, h.3, h.4⟩, fun h => ⟨h.1, h.2.1, h.2.2.1, h.2.2.2⟩⟩

instance (name : String) : Decidable (IsName name) := decidable_of_iff _ isName_iff.symm

theorem components_append_slash (path rest : List Char) :
    components (path ++ '/' :: rest) = components path ++ components rest := by
  rw [components, pieces, List.splitOn_append_cons_self, List.filter_append, List.map_append]
  rfl

theorem components_intercalate (h : ∀ name ∈ names, IsName name) :
    components (['/'].intercalate (names.map String.toList)) = names := by
  cases hnames : names with
  | nil => rfl
  | cons first rest =>
    rw [← hnames]
    have hpieces : pieces (['/'].intercalate (names.map String.toList)) =
        names.map String.toList :=
      List.splitOn_intercalate '/' (List.forall_mem_map.2 fun name hname => (h name hname).slash)
        (by simp [hnames])
    have hall : (names.map String.toList).filter (fun piece => piece ≠ [] ∧ piece ≠ ['.']) =
        names.map String.toList := by
      refine List.filter_eq_self.2 (List.forall_mem_map.2 fun name hname => ?_)
      simp [(h name hname).ne_nil, (h name hname).ne_dot]
    rw [components, hpieces, hall, List.map_map]
    exact List.map_congr_left (fun name _ => String.ofList_toList) |>.trans (List.map_id names)

/-- **The path of something inside a directory** goes on with the names that lead to it. -/
theorem components_join (h : ∀ name ∈ names, IsName name) :
    components (join path names) = components path ++ names := by
  unfold join
  split_ifs with hlast
  · obtain ⟨front, rfl⟩ := List.getLast?_eq_some_iff.1 hlast
    have hslash : components (front ++ ['/']) = components front := by
      rw [components_append_slash]
      exact List.append_nil _
    rw [List.append_assoc, List.singleton_append, components_append_slash, hslash,
      components_intercalate h]
  · rw [List.append_assoc, List.singleton_append, components_append_slash,
      components_intercalate h]

theorem fileName?_of_isName (h : IsName name) : fileName? name.toList = some name.toList := by
  have hpieces : pieces name.toList = [name.toList] := List.splitOn_eq_singleton h.slash
  simp [fileName?, hpieces, h.ne_nil, h.ne_dot, h.ne_dots]

/-- An extension stands behind the last dot, and something else in front of it. -/
theorem nameExtension?_eq_some {name extension : List Char} :
    nameExtension? name = some extension ↔
      '.' ∉ extension ∧ ∃ stem ≠ [], name = stem ++ '.' :: extension := by
  constructor
  · intro h
    have hsplit : name.reverse.takeWhile (· ≠ '.') ++ name.reverse.dropWhile (· ≠ '.') =
        name.reverse := List.takeWhile_append_dropWhile
    unfold nameExtension? at h
    split at h
    · next c d rest hrest =>
      cases h
      obtain rfl : c = '.' := by
        have hhead := List.head?_dropWhile_not (· ≠ '.') name.reverse
        rw [hrest] at hhead
        simpa using hhead
      refine ⟨fun hmem => ?_, (d :: rest).reverse, by simp, ?_⟩
      · simpa using List.mem_takeWhile_imp (List.mem_reverse.1 hmem)
      · rw [hrest] at hsplit
        have hname := congrArg List.reverse hsplit
        rw [List.reverse_append, List.reverse_reverse] at hname
        simpa using hname.symm
    · cases h
  · rintro ⟨hdot, stem, hstem, rfl⟩
    have hall : ∀ c ∈ extension.reverse, decide (c ≠ '.') = true := by
      intro c hc
      rw [decide_eq_true_eq]
      rintro rfl
      exact hdot (List.mem_reverse.1 hc)
    have hreverse : (stem ++ '.' :: extension).reverse =
        extension.reverse ++ '.' :: stem.reverse := by simp
    obtain ⟨d, rest, hrest⟩ :=
      List.exists_cons_of_ne_nil (List.reverse_ne_nil_iff.2 hstem)
    unfold nameExtension?
    rw [hreverse, List.dropWhile_append_of_pos hall, List.takeWhile_append_of_pos hall, hrest]
    simp

theorem hasExtension_iff (h : IsName name) {extension : String} (hdot : '.' ∉ extension.toList) :
    hasExtension name.toList extension = true ↔
      ∃ stem ≠ [], name.toList = stem ++ '.' :: extension.toList := by
  rw [hasExtension, beq_iff_eq, extension?, fileName?_of_isName h, Option.bind_some,
    nameExtension?_eq_some, and_iff_right hdot]

end Path

/-! ## Trees -/

namespace FileTree

/-- Entries have names, those of a directory have different names, and walks get past them. -/
inductive IsProper : FileTree → Prop
  | file (content : Content) : IsProper (file content)
  | directory {entries : List (String × FileTree)} :
      (∀ e ∈ entries, Path.IsName e.1) → (entries.map Prod.fst).Nodup →
        (∀ e ∈ entries, IsProper e.2) → IsProper (directory entries)

/-- Names lead to a file with the content, from directory to directory. -/
inductive Holds : FileTree → List String → Content → Prop
  | here (content : Content) : Holds (file content) [] content
  | inside {entries : List (String × FileTree)} {name : String} {t : FileTree}
      {names : List String} {content : Content} :
      (name, t) ∈ entries → Holds t names content →
        Holds (directory entries) (name :: names) content

variable {t : FileTree} {entries : List (String × FileTree)} {names : List String}
  {content : Content}

theorem filesOf_eq (entries : List (String × FileTree)) :
    filesOf entries = entries.flatMap fun e => e.2.files.map fun f => (e.1 :: f.1, f.2) := by
  induction entries with
  | nil => rfl
  | cons e entries ih => rw [filesOf, ih, List.flatMap_cons]

theorem mem_filesOf {f : List String × Content} :
    f ∈ filesOf entries ↔ ∃ e ∈ entries, ∃ g ∈ e.2.files, f = (e.1 :: g.1, g.2) := by
  simp only [filesOf_eq, List.mem_flatMap, List.mem_map, eq_comm]

/-- **All files of a tree are listed**, and nothing else. -/
theorem mem_files : (names, content) ∈ t.files ↔ t.Holds names content := by
  constructor
  · intro h
    induction names generalizing t with
    | nil =>
      cases t with
      | file content' =>
        obtain ⟨-, rfl⟩ := Prod.mk.inj (List.mem_singleton.1 h)
        exact .here content
      | directory entries =>
        obtain ⟨e, -, g, -, heq⟩ := mem_filesOf.1 h
        cases heq
      | blocked cause => cases h
    | cons name names ih =>
      cases t with
      | file content' => cases List.mem_singleton.1 h
      | directory entries =>
        obtain ⟨e, he, g, hg, heq⟩ := mem_filesOf.1 h
        cases heq
        exact .inside he (ih hg)
      | blocked cause => cases h
  · intro h
    induction h with
    | here content => exact List.mem_singleton_self _
    | inside he _ ih => exact mem_filesOf.2 ⟨_, he, _, ih, rfl⟩

/-- The names that lead to a file of a proper tree can stand in paths. -/
theorem IsProper.isName (ht : t.IsProper) (h : t.Holds names content) :
    ∀ name ∈ names, Path.IsName name := by
  induction h with
  | here content => exact List.forall_mem_nil _
  | inside he _ ih =>
    cases ht with
    | directory hnames _ hentries =>
      exact List.forall_mem_cons.2 ⟨hnames _ he, ih (hentries _ he)⟩

theorem obstacleOf?_eq_none (h : ∀ e ∈ entries, e.2.obstacle? = none) :
    obstacleOf? entries = none := by
  induction entries with
  | nil => rfl
  | cons e entries ih =>
    obtain ⟨he, hentries⟩ := List.forall_mem_cons.1 h
    rw [obstacleOf?, he, Option.none_or, ih hentries]

/-- A walk through a proper tree comes to its end. -/
theorem IsProper.obstacle? (ht : t.IsProper) : t.obstacle? = none := by
  induction ht with
  | file content => rfl
  | directory _ _ _ ih => exact obstacleOf?_eq_none ih

/-- **Names lead to one file at most.** -/
theorem IsProper.nodup_files (ht : t.IsProper) : (t.files.map Prod.fst).Nodup := by
  induction ht with
  | file content => exact List.nodup_singleton _
  | @directory entries _ hnodup _ ih =>
    change ((filesOf entries).map Prod.fst).Nodup
    rw [filesOf_eq, List.map_flatMap, List.nodup_flatMap]
    constructor
    · intro e he
      have hcons : (e.2.files.map fun f => (e.1 :: f.1, f.2)).map Prod.fst =
          (e.2.files.map Prod.fst).map (e.1 :: ·) := by simp
      rw [hcons]
      exact (ih e he).map (List.cons_injective)
    · refine (List.pairwise_map.1 hnodup).imp fun hne => ?_
      -- The files of different entries differ in their first names.
      change List.Disjoint _ _
      rw [List.disjoint_left]
      intro names hnames hnames'
      simp only [List.map_map, List.mem_map, Function.comp_apply] at hnames hnames'
      obtain ⟨f, -, rfl⟩ := hnames
      obtain ⟨f', -, heq⟩ := hnames'
      exact hne (List.cons.inj heq).1.symm

/-- What a path leads to in a proper tree is proper. -/
theorem IsProper.follow {above : List FileTree} {pieces : List (List Char)} {t' : FileTree}
    (ht : t.IsProper) (habove : ∀ parent ∈ above, parent.IsProper)
    (h : t.follow above pieces = some t') : t'.IsProper := by
  induction pieces generalizing t above with
  | nil =>
    rw [FileTree.follow.eq_def] at h
    exact Option.some.inj h ▸ ht
  | cons piece rest ih =>
    cases ht with
    | file content => cases h
    | @directory entries hnames hnodup hentries =>
      rw [FileTree.follow.eq_def] at h
      dsimp only at h
      split_ifs at h with hstays hback
      · exact ih (.directory hnames hnodup hentries) habove h
      · cases above with
        | nil => cases h
        | cons parent above =>
          obtain ⟨hparent, habove⟩ := List.forall_mem_cons.1 habove
          exact ih hparent habove h
      · cases hlookup : entries.lookup (String.ofList piece) with
        | none => rw [hlookup] at h; cases h
        | some inner =>
          rw [hlookup] at h
          obtain ⟨front, behind, rfl, -⟩ := List.lookup_eq_some_iff.1 hlookup
          exact ih (hentries _ (List.mem_append_cons_self))
            (List.forall_mem_cons.2 ⟨.directory hnames hnodup hentries, habove⟩) h

theorem IsProper.find? (ht : t.IsProper) {path : List Char} {t' : FileTree}
    (h : t.find? path = some t') : t'.IsProper := by
  unfold FileTree.find? at h
  split at h
  · cases h
  · cases h
  · exact ht.follow (List.forall_mem_nil _) h

/-- The same files are found by the same names, in whatever order entries are listed. -/
def Alike (t t' : FileTree) : Prop :=
  ∀ names content, t.Holds names content ↔ t'.Holds names content

theorem holds_file_iff {content' : Content} :
    (file content').Holds names content ↔ names = [] ∧ content = content' := by
  constructor
  · rintro ⟨⟩
    exact ⟨rfl, rfl⟩
  · rintro ⟨rfl, rfl⟩
    exact .here _

theorem not_holds_directory_nil : ¬(directory entries).Holds [] content := nofun

end FileTree

/-! ## Directories -/

namespace Source

variable {look : List Char → Option FileTree} {path : List Char} {paths : List (List Char)}
  {t : FileTree} {sources : List Source}

/-- The names in the path of a source. -/
def components (s : Source) : List String := Path.components s.name.toList

theorem comesBefore_iff {as bs : List String} : comesBefore as bs = true ↔ as ≤ bs := by
  induction as generalizing bs with
  | nil =>
    cases bs with
    | nil => exact iff_of_true rfl le_rfl
    | cons b bs => exact iff_of_true rfl (List.nil_lt_cons b bs).le
  | cons a as ih =>
    cases bs with
    | nil => exact iff_of_false Bool.false_ne_true (List.nil_lt_cons a as).not_ge
    | cons b bs =>
      simp only [comesBefore, Bool.or_eq_true, decide_eq_true_eq, Bool.and_eq_true, beq_iff_eq, ih,
        le_iff_lt_or_eq, List.cons_lt_cons_iff, List.cons.injEq, and_or_left, or_assoc]

theorem isRecordFile_iff {names : List String} (h : ∀ name ∈ names, Path.IsName name) :
    isRecordFile names = true ↔ ∃ front name, names = front ++ [name] ∧ Path.IsRecordName name := by
  unfold isRecordFile
  cases hlast : names.getLast? with
  | none =>
    obtain rfl := List.getLast?_eq_none_iff.1 hlast
    simp
  | some name =>
    obtain ⟨front, rfl⟩ := List.getLast?_eq_some_iff.1 hlast
    have hname := h name (by simp)
    have hrecord : Path.hasExtension name.toList "json" = true ∨
        Path.hasExtension name.toList "jsonl" = true ↔ Path.IsRecordName name := by
      rw [Path.hasExtension_iff hname (by decide), Path.hasExtension_iff hname (by decide)]
      simp [Path.IsRecordName, and_or_left, exists_or]
    simp [hrecord]

/-- **A directory stands for the files of records below it.** -/
theorem mem_ofDirectory (ht : t.IsProper) {s : Source} :
    s ∈ ofDirectory path t ↔ ∃ front name content, t.Holds (front ++ [name]) content ∧
      Path.IsRecordName name ∧ s = file (Path.join path (front ++ [name])) content := by
  simp only [ofDirectory, List.mem_map, List.mem_mergeSort, List.mem_filter]
  constructor
  · rintro ⟨⟨names, content⟩, ⟨hfile, hrecord⟩, rfl⟩
    have hholds := FileTree.mem_files.1 hfile
    obtain ⟨front, name, rfl, hname⟩ := (isRecordFile_iff (ht.isName hholds)).1 hrecord
    exact ⟨front, name, content, hholds, hname, rfl⟩
  · rintro ⟨front, name, content, hholds, hname, rfl⟩
    refine ⟨(front ++ [name], content), ⟨FileTree.mem_files.2 hholds, ?_⟩, rfl⟩
    exact (isRecordFile_iff (ht.isName hholds)).2 ⟨front, name, rfl, hname⟩

/-- **The files below a directory are sorted** by the names in their paths. -/
theorem pairwise_ofDirectory (ht : t.IsProper) (path : List Char) :
    (ofDirectory path t).Pairwise fun s s' => s.components < s'.components := by
  set found := t.files.filter fun f => isRecordFile f.1
  set sorted := found.mergeSort fun f g => comesBefore f.1 g.1 with hsorted
  have hperm : sorted.Perm found := List.mergeSort_perm _ _
  have hle : sorted.Pairwise fun f g => f.1 ≤ g.1 := by
    refine (List.pairwise_mergeSort ?_ ?_ found).imp fun h => comesBefore_iff.1 h
    · intro f g h hfg hgh
      exact comesBefore_iff.2 (le_trans (comesBefore_iff.1 hfg) (comesBefore_iff.1 hgh))
    · intro f g
      rw [Bool.or_eq_true, comesBefore_iff, comesBefore_iff]
      exact le_total f.1 g.1
  have hne : sorted.Pairwise fun f g => f.1 ≠ g.1 := by
    rw [← List.pairwise_map (f := Prod.fst)]
    exact ((hperm.map Prod.fst).nodup_iff).2
      (ht.nodup_files.sublist (List.filter_sublist.map Prod.fst))
  refine List.pairwise_map.2 ((hle.and hne).imp_of_mem fun {f g} hf hg h => ?_)
  have hnames : ∀ f ∈ sorted, ∀ name ∈ f.1, Path.IsName name := fun f hf =>
    ht.isName (FileTree.mem_files.1 (List.mem_of_mem_filter (hperm.mem_iff.1 hf)))
  have hcomponents : ∀ f ∈ sorted,
      components (file (Path.join path f.1) f.2) = Path.components path ++ f.1 := by
    intro f hf
    rw [components, name, String.toList_ofList, Path.components_join (hnames f hf)]
  rw [hcomponents f hf, hcomponents g hg]
  exact List.append_left_lt (lt_of_le_of_ne h.1 h.2)

/-- **What is found below a directory is fixed** by what it holds: the listing is sorted, and sorted
lists with the same members are the same. -/
theorem ofDirectory_congr {t' : FileTree} (ht : t.IsProper) (ht' : t'.IsProper) (h : t.Alike t')
    (path : List Char) : ofDirectory path t = ofDirectory path t' := by
  have hnodup : ∀ {t : FileTree}, t.IsProper → (ofDirectory path t).Nodup := fun ht =>
    (pairwise_ofDirectory ht path).imp fun hlt heq => hlt.ne (congrArg components heq)
  have hperm : (ofDirectory path t).Perm (ofDirectory path t') := by
    refine (List.perm_ext_iff_of_nodup (hnodup ht) (hnodup ht')).2 fun s => ?_
    simp only [mem_ofDirectory ht, mem_ofDirectory ht', h _ _]
  exact hperm.eq_of_pairwise (fun _ _ _ _ hlt hlt' => absurd hlt' hlt.not_gt)
    (pairwise_ofDirectory ht path) (pairwise_ofDirectory ht' path)

/-! ## Lists of paths -/

/-- A path that leads nowhere; a dash need not lead anywhere. -/
def IsMissing (look : List Char → Option FileTree) (path : List Char) : Prop :=
  path ≠ ['-'] ∧ look path = none

/-- The sources that a path stands for. -/
inductive StandsFor (look : List Char → Option FileTree) : List Char → List Source → Prop
  | input : StandsFor look ['-'] [standardInput]
  | file {path : List Char} {content : Content} :
      path ≠ ['-'] → look path = some (.file content) → StandsFor look path [file path content]
  | directory {path : List Char} {entries : List (String × FileTree)} {sources : List Source} :
      path ≠ ['-'] → look path = some (.directory entries) →
        (∀ s, s ∈ sources ↔ ∃ front name content,
          (FileTree.directory entries).Holds (front ++ [name]) content ∧
            Path.IsRecordName name ∧ s = Source.file (Path.join path (front ++ [name])) content) →
          sources.Pairwise (fun s s' => s.components < s'.components) →
            StandsFor look path sources

theorem ofPath_of_isMissing (h : IsMissing look path) :
    ofPath look path = .error (.missing (String.ofList path)) := by
  rw [ofPath, if_neg h.1, h.2]

theorem ofPath_of_not_isMissing (hlook : ∀ path t, look path = some t → t.IsProper)
    (h : ¬IsMissing look path) :
    ∃ sources, StandsFor look path sources ∧ ofPath look path = .ok sources := by
  unfold ofPath
  split_ifs with hinput
  · subst hinput
    exact ⟨_, .input, rfl⟩
  · cases ht : look path with
    | none => exact absurd ⟨hinput, ht⟩ h
    | some t =>
      have hproper := hlook path t ht
      cases t with
      | file content => exact ⟨_, .file hinput ht, rfl⟩
      | directory entries =>
        refine ⟨_, .directory hinput ht (fun _ => mem_ofDirectory hproper)
          (pairwise_ofDirectory hproper path), ?_⟩
        dsimp only
        rw [hproper.obstacle?]
      | blocked cause => cases hproper

theorem ofPath_congr {look' : List Char → Option FileTree}
    (hlook : ∀ path t, look path = some t → t.IsProper)
    (hlook' : ∀ path t, look' path = some t → t.IsProper)
    (h : Option.Rel FileTree.Alike (look path) (look' path)) :
    ofPath look path = ofPath look' path := by
  unfold ofPath
  split_ifs with hinput
  · rfl
  · cases ht : look path with
    | none => cases ht' : look' path with
      | none => rfl
      | some t' => rw [ht, ht'] at h; cases h
    | some t => cases ht' : look' path with
      | none => rw [ht, ht'] at h; cases h
      | some t' =>
        rw [ht, ht'] at h
        obtain ⟨h⟩ := h
        have hproper := hlook path t ht
        have hproper' := hlook' path t' ht'
        cases t with
        | file content =>
          have hhere := (h [] content).1 (.here content)
          cases t' with
          | file content' => rw [(FileTree.holds_file_iff.1 hhere).2]
          | directory entries' => exact absurd hhere FileTree.not_holds_directory_nil
          | blocked cause => cases hproper'
        | directory entries =>
          cases t' with
          | file content' =>
            exact absurd ((h [] content').2 (.here content')) FileTree.not_holds_directory_nil
          | directory entries' =>
            dsimp only
            rw [hproper.obstacle?, hproper'.obstacle?, ofDirectory_congr hproper hproper' h path]
          | blocked cause => cases hproper'
        | blocked cause => cases hproper

/-- Paths are taken one behind the other until one of them leads nowhere. -/
theorem ofPaths_append {front : List (List Char)} {parts : List (List Source)}
    (h : List.Forall₂ (fun path sources => ofPath look path = .ok sources) front parts)
    (behind : List (List Char)) :
    ofPaths look (front ++ behind) = (ofPaths look behind).map (parts.flatten ++ ·) := by
  induction h with
  | nil =>
    rw [List.nil_append]
    cases ofPaths look behind <;> rfl
  | @cons path sources front parts hpath _ ih =>
    rw [List.cons_append, ofPaths, hpath]
    dsimp only
    rw [ih]
    cases ofPaths look behind with
    | error e => rfl
    | ok more =>
      exact congrArg Except.ok (List.append_assoc sources parts.flatten more).symm

theorem exists_parts (hlook : ∀ path t, look path = some t → t.IsProper)
    (h : ∀ path ∈ paths, ¬IsMissing look path) :
    ∃ parts, List.Forall₂ (StandsFor look) paths parts ∧
      List.Forall₂ (fun path sources => ofPath look path = .ok sources) paths parts := by
  induction paths with
  | nil => exact ⟨[], .nil, .nil⟩
  | cons path paths ih =>
    obtain ⟨hpath, hpaths⟩ := List.forall_mem_cons.1 h
    obtain ⟨sources, hstands, hsources⟩ := ofPath_of_not_isMissing hlook hpath
    obtain ⟨parts, hstandsAll, hparts⟩ := ih hpaths
    exact ⟨sources :: parts, .cons hstands hstandsAll, .cons hsources hparts⟩

/-- **Discovery is complete, sound and ordered.** Without paths it is standard input. The first path
that leads nowhere is an error. Otherwise the sources are those of the paths in order, and for a
directory these are the files of records below it, sorted by the names in their paths. How
directories list their entries does not matter. -/
theorem discover_paths (hlook : ∀ path t, look path = some t → t.IsProper) :
    discover look [] = .ok [standardInput] ∧
    (∀ front path behind, (∀ earlier ∈ front, ¬IsMissing look earlier) → IsMissing look path →
      discover look (front ++ path :: behind) = .error (.missing (String.ofList path))) ∧
    (∀ paths, paths ≠ [] → (∀ path ∈ paths, ¬IsMissing look path) →
      ∃ parts, List.Forall₂ (StandsFor look) paths parts ∧
        discover look paths = .ok parts.flatten) ∧
    ∀ look' : List Char → Option FileTree, (∀ path t, look' path = some t → t.IsProper) →
      (∀ path, Option.Rel FileTree.Alike (look path) (look' path)) →
        ∀ paths, discover look' paths = discover look paths := by
  refine ⟨rfl, ?_, ?_, ?_⟩
  · intro front path behind hfront hmissing
    obtain ⟨parts, -, hparts⟩ := exists_parts hlook hfront
    rw [discover, if_neg (by simp), ofPaths_append hparts, ofPaths, ofPath_of_isMissing hmissing]
    rfl
  · intro paths hne hpaths
    obtain ⟨parts, hstands, hparts⟩ := exists_parts hlook hpaths
    refine ⟨parts, hstands, ?_⟩
    have happend := ofPaths_append hparts []
    rw [List.append_nil] at happend
    rw [discover, if_neg hne, happend]
    exact congrArg Except.ok (List.append_nil _)
  · intro look' hlook' halike paths
    have hpaths : ofPaths look' paths = ofPaths look paths := by
      induction paths with
      | nil => rfl
      | cons path rest ih =>
        rw [ofPaths, ofPaths, ih, ofPath_congr hlook hlook' (halike path)]
    rw [discover, discover, hpaths]

/-- A directory that does not list its entries in the order of their names. -/
def unsortedEntries : List (String × FileTree) :=
  [("a-.json", .file "2".toUTF8), (".json", .file "3".toUTF8),
    ("a", .directory [("q.jsonl", .file "1".toUTF8)])]

/-- A directory and a file next to it. -/
def unsortedTree : FileTree :=
  .directory [("d", .directory unsortedEntries), ("n", .file "4".toUTF8)]

theorem isProper_unsortedTree : unsortedTree.IsProper := by
  have hinner : (FileTree.directory [("q.jsonl", .file "1".toUTF8)]).IsProper :=
    .directory (by decide) (by decide) (List.forall_mem_singleton.2 (.file _))
  have hentries : (FileTree.directory unsortedEntries).IsProper :=
    .directory (by decide) (by decide) (List.forall_mem_cons.2 ⟨.file _,
      List.forall_mem_cons.2 ⟨.file _, List.forall_mem_singleton.2 hinner⟩⟩)
  exact .directory (by decide) (by decide)
    (List.forall_mem_cons.2 ⟨hentries, List.forall_mem_singleton.2 (.file _)⟩)

theorem ofDirectory_unsortedEntries : ofDirectory ['d'] (.directory unsortedEntries) =
    [file "d/a/q.jsonl".toList "1".toUTF8, file "d/a-.json".toList "2".toUTF8] := by
  have hfiles : ((FileTree.directory unsortedEntries).files.filter fun f => isRecordFile f.1) =
      [(["a-.json"], .bytes "2".toUTF8), (["a", "q.jsonl"], .bytes "1".toUTF8)] := rfl
  have hbefore : comesBefore ["a-.json"] ["a", "q.jsonl"] = false := by decide
  have hsorted : [(["a-.json"], Content.bytes "2".toUTF8),
      (["a", "q.jsonl"], .bytes "1".toUTF8)].mergeSort (fun f g => comesBefore f.1 g.1) =
        [(["a", "q.jsonl"], .bytes "1".toUTF8), (["a-.json"], .bytes "2".toUTF8)] := by
    simp [List.mergeSort, hbefore]
  rw [ofDirectory, hfiles, hsorted]
  rfl

theorem discover_unsortedTree :
    (∀ path t, unsortedTree.find? path = some t → t.IsProper) ∧
    discover unsortedTree.find? [] = .ok [standardInput] ∧
    discover unsortedTree.find? [['d'], ['x'], ['y']] = .error (.missing "x") ∧
    (∃ parts, List.Forall₂ (StandsFor unsortedTree.find?) [['-'], ['d'], ['n']] parts ∧
      discover unsortedTree.find? [['-'], ['d'], ['n']] = .ok parts.flatten) ∧
    discover unsortedTree.find? [['-'], ['d'], ['n']] =
      .ok [standardInput, file "d/a/q.jsonl".toList "1".toUTF8,
        file "d/a-.json".toList "2".toUTF8, file ['n'] "4".toUTF8] := by
  have hlook : ∀ path t, unsortedTree.find? path = some t → t.IsProper :=
    fun _ _ h => isProper_unsortedTree.find? h
  have hd : unsortedTree.find? ['d'] = some (.directory unsortedEntries) := rfl
  have hn : unsortedTree.find? ['n'] = some (.file "4".toUTF8) := rfl
  have hx : unsortedTree.find? ['x'] = none := rfl
  obtain ⟨hnone, hmissing, hfound, -⟩ := discover_paths hlook
  refine ⟨hlook, hnone, hmissing [['d']] ['x'] [['y']] ?_ ⟨by decide, hx⟩, hfound _ (by simp) ?_,
    ?_⟩
  · simp [IsMissing, hd]
  · simp [IsMissing, hd, hn]
  · rw [discover, if_neg (by simp)]
    have hwalk : (FileTree.directory unsortedEntries).obstacle? = none := rfl
    simp [ofPaths, ofPath, hd, hn, hwalk, ofDirectory_unsortedEntries]

end Source

end Sift
