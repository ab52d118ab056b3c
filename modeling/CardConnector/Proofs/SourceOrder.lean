import CardConnector.Configuration.Sources
import CardConnector.Proofs.TreeMerge

/-! # Order of what is read

The trees of configuration files and of the environment are ordered, whatever the text they
are read from. A table of either grows entry by entry, and every entry takes its place; so
the growth of a table is followed through the trees of its entries, and the readers are
followed from the values inside to the values around them.
-/

universe u

namespace CardConnector

/-- What every step of a run keeps holds at its end, if the run gets there. -/
theorem foldlM_some_induction {σ α : Type u} {step : σ → α → Option σ} (holds : σ → Prop)
    {start last : σ} (hstart : holds start) {items : List α}
    (hstep : ∀ item ∈ items, ∀ state next, holds state → step state item = some next → holds next)
    (hrun : items.foldlM step start = some last) : holds last := by
  induction items generalizing start with
  | nil =>
      cases hrun
      exact hstart
  | cons item rest ih =>
      obtain ⟨hitem, hrest⟩ := List.forall_mem_cons.mp hstep
      rw [List.foldlM_cons] at hrun
      obtain ⟨next, hnext, hrun⟩ := Option.bind_eq_some_iff.mp hrun
      exact ih (hitem start next hstart hnext) hrest hrun

namespace Tree

theorem ordered_empty (o : Origin) : (table o []).Ordered :=
  ordered_table_iff.mpr ⟨List.Pairwise.nil, fun _ _ hget => nomatch hget⟩

theorem Ordered.insert {o : Origin} {entries : List (String × Tree)}
    (hentries : (table o entries).Ordered) {value : Tree} (hvalue : value.Ordered)
    (key : String) : (table o (Entries.insert key value entries)).Ordered := by
  obtain ⟨hsorted, hbelow⟩ := ordered_table_iff.mp hentries
  refine ordered_table_iff.mpr ⟨Entries.ascending_adjust _ _ hsorted, fun other below hget => ?_⟩
  rw [Entries.insert, Entries.get?_adjust _ _ _ _ hsorted] at hget
  split at hget
  · exact Option.some.inj hget ▸ hvalue
  · exact hbelow other below hget

theorem ordered_ofList (o : Origin) {entries : List (String × Tree)}
    (hvalues : ∀ entry ∈ entries, entry.2.Ordered) :
    (table o (Entries.ofList entries)).Ordered := by
  unfold Entries.ofList
  refine List.foldlRecOn (motive := fun sorted => (table o sorted).Ordered) entries _
    (ordered_empty o) fun sorted hsorted entry hmem => ?_
  exact hsorted.insert (hvalues entry hmem) entry.1

theorem Ordered.nested (o : Origin) {value : Tree} (hvalue : value.Ordered)
    (path : List String) : (Tree.nested o path value).Ordered := by
  induction path with
  | nil => exact hvalue
  | cons key path ih => exact (ordered_empty o).insert ih key

/-! ## Documents -/

mutual

/-- The tree of a JSON value is ordered. -/
theorem ordered_ofJson : (value : Json) → (ofJson value).Ordered
  | .null => ordered_of_not_table rfl
  | .bool _ => ordered_of_not_table rfl
  | .int n => by
      unfold ofJson
      split <;> exact ordered_of_not_table rfl
  | .double _ => ordered_of_not_table rfl
  | .string _ => ordered_of_not_table rfl
  | .array _ => ordered_of_not_table rfl
  | .object members => ordered_ofList .document (ordered_ofMembers members)

theorem ordered_ofMembers :
    (members : List (String × Json)) → ∀ entry ∈ ofMembers members, entry.2.Ordered
  | [] => fun _ hmem => nomatch hmem
  | (_, value) :: rest =>
      List.forall_mem_cons.mpr ⟨ordered_ofJson value, ordered_ofMembers rest⟩

end

end Tree

/-! ## Scanners -/

namespace Toml

variable {α : Type u}

/-- Whatever a scanner reads has a property. -/
def Yields (scan : Scanner α) (holds : α → Prop) : Prop :=
  ∀ cs value rest, scan cs = some (value, rest) → holds value

theorem Yields.separatedBy {item : Scanner α} {holds : α → Prop} (hitem : Yields item holds)
    (separator : Char) :
    Yields (Toml.separatedBy separator item) fun values => ∀ value ∈ values, holds value := by
  intro cs
  fun_induction Toml.separatedBy separator item cs with
  | case1 => simp
  | case2 cs value rest hshorter hread ih =>
      intro values left hvalues
      obtain ⟨⟨later, left'⟩, hlater, heq⟩ := Option.map_eq_some_iff.mp hvalues
      cases heq
      exact List.forall_mem_cons.mpr ⟨hitem _ _ _ hread, ih later left hlater⟩
  | case3 => simp
  | case4 cs value c rest hread hother =>
      intro values left hvalues
      cases hvalues
      exact List.forall_mem_singleton.mpr (hitem _ _ _ hread)
  | case5 cs value hread =>
      intro values left hvalues
      cases hvalues
      exact List.forall_mem_singleton.mpr (hitem _ _ _ hread)

/-! ## Tables of a document -/

variable {o : Origin}

theorem nodesToTrees_eq_map (nodes : Nodes) :
    nodesToTrees o nodes = nodes.map fun entry => (entry.1, entry.2.toTree o) := by
  induction nodes with
  | nil => rfl
  | cons entry rest ih => rw [nodesToTrees, ih]; rfl

theorem get?_nodesToTrees (nodes : Nodes) (key : String) :
    Entries.get? key (nodesToTrees o nodes) = (Entries.get? key nodes).map (Node.toTree o) := by
  rw [nodesToTrees_eq_map]
  exact Entries.get?_map (Node.toTree o) nodes key

theorem nodesToTrees_insert (nodes : Nodes) (key : String) (node : Node) :
    nodesToTrees o (Entries.insert key node nodes) =
      Entries.insert key (node.toTree o) (nodesToTrees o nodes) := by
  rw [nodesToTrees_eq_map, nodesToTrees_eq_map]
  exact Entries.insert_map (Node.toTree o) nodes key node

namespace Nodes

/-- The tables read so far make an ordered tree. -/
def Ordered (o : Origin) (nodes : Nodes) : Prop := (Tree.table o (nodesToTrees o nodes)).Ordered

/-- A change that leaves ordered tables ordered. -/
def Keeps (o : Origin) (change : Nodes → Option Nodes) : Prop :=
  ∀ nodes next, Ordered o nodes → change nodes = some next → Ordered o next

theorem ordered_nil : Ordered o [] := Tree.ordered_empty o

theorem Ordered.below {nodes : Nodes} (hnodes : Ordered o nodes) {key : String} {node : Node}
    (hget : Entries.get? key nodes = some node) : (node.toTree o).Ordered := by
  apply (Tree.ordered_table_iff.mp hnodes).2 key
  rw [get?_nodesToTrees, hget]
  rfl

theorem Ordered.put {nodes : Nodes} (hnodes : Ordered o nodes) {node : Node}
    (hnode : (node.toTree o).Ordered) (key : String) :
    Ordered o (Entries.insert key node nodes) := by
  unfold Ordered
  rw [nodesToTrees_insert]
  exact Tree.Ordered.insert hnodes hnode key

theorem Keeps.alongHeader {change : Nodes → Option Nodes} (hchange : Keeps o change)
    (path : List String) : Keeps o (Nodes.alongHeader change path) := by
  induction path with
  | nil =>
      intro nodes next hnodes hnext
      rw [Nodes.alongHeader] at hnext
      exact hchange nodes next hnodes hnext
  | cons key path ih =>
      intro nodes next hnodes hnext
      rw [Nodes.alongHeader] at hnext
      obtain ⟨node, hnode, rfl⟩ := Option.map_eq_some_iff.mp hnext
      refine hnodes.put ?_ key
      split at hnode
      next =>
        obtain ⟨entries, hentries, rfl⟩ := Option.map_eq_some_iff.mp hnode
        exact ih [] entries ordered_nil hentries
      next style former hget =>
        obtain ⟨entries, hentries, rfl⟩ := Option.map_eq_some_iff.mp hnode
        exact ih former entries (hnodes.below hget) hentries
      next =>
        -- rows are a list, and no key leads into a list
        obtain ⟨rows, -, rfl⟩ := Option.map_eq_some_iff.mp hnode
        exact Tree.ordered_of_not_table rfl
      next => cases hnode

theorem Keeps.alongKey {change : Nodes → Option Nodes} (hchange : Keeps o change)
    (style : TableStyle) (path : List String) : Keeps o (Nodes.alongKey change style path) := by
  induction path generalizing style with
  | nil =>
      intro nodes next hnodes hnext
      rw [Nodes.alongKey] at hnext
      split at hnext
      · exact hchange nodes next hnodes hnext
      · cases hnext
  | cons key path ih =>
      intro nodes next hnodes hnext
      rw [Nodes.alongKey] at hnext
      obtain ⟨node, hnode, rfl⟩ := Option.map_eq_some_iff.mp hnext
      refine hnodes.put ?_ key
      split at hnode
      next =>
        obtain ⟨entries, hentries, rfl⟩ := Option.map_eq_some_iff.mp hnode
        exact ih .dotted [] entries ordered_nil hentries
      next => cases hnode
      next style former _ hget =>
        obtain ⟨entries, hentries, rfl⟩ := Option.map_eq_some_iff.mp hnode
        exact ih style former entries (hnodes.below hget) hentries
      next =>
        obtain ⟨rows, -, rfl⟩ := Option.map_eq_some_iff.mp hnode
        exact Tree.ordered_of_not_table rfl
      next => cases hnode

theorem keeps_open? (key : String) : Keeps o (open? key) := by
  intro nodes next hnodes hnext
  unfold open? at hnext
  split at hnext
  next =>
    cases hnext
    have hempty : (Node.toTree o (.table .headed [])).Ordered := Tree.ordered_empty o
    exact hnodes.put hempty key
  next former hget =>
    cases hnext
    have hformer := hnodes.below hget
    rw [Node.toTree] at hformer
    have hheaded : (Node.toTree o (.table .headed former)).Ordered := hformer
    exact hnodes.put hheaded key
  next => cases hnext

theorem keeps_addRow? (key : String) : Keeps o (addRow? key) := by
  intro nodes next hnodes hnext
  unfold addRow? at hnext
  have hrows : ∀ rows, (Node.toTree o (.rows rows)).Ordered := fun _ =>
    Tree.ordered_of_not_table rfl
  split at hnext
  next =>
    cases hnext
    exact hnodes.put (hrows [[]]) key
  next rows _ =>
    cases hnext
    exact hnodes.put (hrows (rows ++ [[]])) key
  next => cases hnext

theorem keeps_addValue? (key : String) {value : Tree} (hvalue : value.Ordered) :
    Keeps o (addValue? key value) := by
  intro nodes next hnodes hnext
  unfold addValue? at hnext
  split at hnext
  next =>
    cases hnext
    have hnode : (Node.toTree o (.value value)).Ordered := hvalue
    exact hnodes.put hnode key
  next => cases hnext

theorem keeps_assign? (path : KeyPath) {value : Tree} (hvalue : value.Ordered) :
    Keeps o (assign? path value) := by
  unfold assign?
  split
  · exact keeps_addValue? path.key hvalue
  · exact (keeps_addValue? path.key hvalue).alongKey _ _

end Nodes

/-! ## Values and documents -/

theorem ordered_of_bracedTable {pairs : List (KeyPath × Tree)} {tree : Tree}
    (hpairs : ∀ pair ∈ pairs, pair.2.Ordered) (htree : bracedTable o pairs = some tree) :
    tree.Ordered := by
  obtain ⟨nodes, hnodes, rfl⟩ := Option.map_eq_some_iff.mp htree
  exact foldlM_some_induction (Nodes.Ordered o) Nodes.ordered_nil
    (fun pair hmem former next hformer hnext =>
      Nodes.keeps_assign? pair.1 (hpairs pair hmem) former next hformer hnext) hnodes

theorem Yields.pair {value : Scanner Tree} (hvalue : Yields value Tree.Ordered) :
    Yields (Toml.pair value) fun pair => pair.2.Ordered := by
  intro cs pair rest hpair
  simp only [Toml.pair, Option.bind_eq_bind, Option.bind_eq_some_iff] at hpair
  obtain ⟨⟨path, afterKey⟩, -, afterSign, -, ⟨tree, afterValue⟩, htree, heq⟩ := hpair
  cases heq
  exact hvalue _ _ _ htree

theorem Yields.bracedPairs {value : Scanner Tree} (hvalue : Yields value Tree.Ordered) :
    Yields (Toml.bracedPairs value) fun pairs => ∀ pair ∈ pairs, pair.2.Ordered := by
  intro cs pairs rest hpairs
  unfold Toml.bracedPairs at hpairs
  split at hpairs
  · cases hpairs
    simp
  · simp only [Option.bind_eq_bind, Option.bind_eq_some_iff] at hpairs
    obtain ⟨⟨read, afterPairs⟩, hread, afterBrace, -, heq⟩ := hpairs
    cases heq
    exact hvalue.pair.separatedBy ',' _ _ _ hread

theorem yields_numeric : Yields (numeric o) Tree.Ordered := by
  intro cs tree rest htree
  unfold numeric at htree
  split at htree
  · cases htree
    exact (Tree.ordered_empty o).insert (Tree.ordered_of_not_table rfl) dateTimeKey
  · split at htree
    · cases htree
      exact Tree.ordered_of_not_table rfl
    · obtain ⟨_, -, heq⟩ := Option.map_eq_some_iff.mp htree
      cases heq
      exact Tree.ordered_of_not_table rfl

theorem yields_scalar : Yields (scalar o) Tree.Ordered := by
  intro cs tree rest htree
  unfold scalar at htree
  split at htree
  iterate 2
    · obtain ⟨_, -, heq⟩ := Option.map_eq_some_iff.mp htree
      cases heq
      exact Tree.ordered_of_not_table rfl
  iterate 2
    · cases htree
      exact Tree.ordered_of_not_table rfl
  · exact yields_numeric _ _ _ htree

theorem yields_value (depth : Nat) : Yields (value o depth) Tree.Ordered := by
  induction depth with
  | zero =>
      intro cs tree rest htree
      unfold value at htree
      exact yields_scalar cs tree rest htree
  | succ depth ih =>
      intro cs tree rest htree
      unfold value at htree
      split at htree
      · obtain ⟨_, -, heq⟩ := Option.map_eq_some_iff.mp htree
        cases heq
        exact Tree.ordered_of_not_table rfl
      · simp only [Option.bind_eq_bind, Option.bind_eq_some_iff] at htree
        obtain ⟨⟨pairs, afterPairs⟩, hpairs, braced, hbraced, heq⟩ := htree
        cases heq
        cases ‹_ + 1 = _›
        exact ordered_of_bracedTable (ih.bracedPairs _ _ _ hpairs) hbraced
      · exact yields_scalar _ _ _ htree

/-- What a statement puts into a document is ordered. -/
def Statement.Ordered : Statement → Prop
  | .pair _ tree => tree.Ordered
  | _ => True

theorem yields_headerBody : Yields headerBody Statement.Ordered := by
  intro cs first rest hfirst
  unfold headerBody at hfirst
  split at hfirst
  · simp only [Option.bind_eq_bind, Option.bind_eq_some_iff] at hfirst
    obtain ⟨_, -, _, -, _, -, heq⟩ := hfirst
    cases heq
    trivial
  · simp only [Option.bind_eq_bind, Option.bind_eq_some_iff] at hfirst
    obtain ⟨_, -, _, -, heq⟩ := hfirst
    cases heq
    trivial

theorem yields_statement : Yields (statement o) Statement.Ordered := by
  intro cs first rest hfirst
  unfold statement at hfirst
  split at hfirst
  · exact yields_headerBody _ _ _ hfirst
  · obtain ⟨⟨pair, afterPair⟩, hpair, heq⟩ := Option.map_eq_some_iff.mp hfirst
    cases heq
    exact (yields_value _).pair _ _ _ hpair

theorem ordered_of_statements {cs : List Char} {read : List Statement}
    (hread : statements o cs = some read) : ∀ statement ∈ read, statement.Ordered := by
  fun_induction statements o cs generalizing read with
  | case4 cs first rest following hline hshorter hgaps hfirst ih =>
      obtain ⟨later, hlater, rfl⟩ := Option.map_eq_some_iff.mp hread
      exact List.forall_mem_cons.mpr ⟨yields_statement _ _ _ hfirst, ih hlater⟩
  | case1 =>
      cases hread
      simp
  | _ => cases hread

theorem ordered_of_step {draft next : Draft} {statement : Statement}
    (hdraft : Nodes.Ordered o draft.nodes) (hstatement : statement.Ordered)
    (hnext : draft.step statement = some next) : Nodes.Ordered o next.nodes := by
  cases statement with
  | header path =>
      obtain ⟨nodes, hnodes, rfl⟩ := Option.map_eq_some_iff.mp hnext
      exact (Nodes.keeps_open? path.key).alongHeader path.parents _ _ hdraft hnodes
  | rowHeader path =>
      obtain ⟨nodes, hnodes, rfl⟩ := Option.map_eq_some_iff.mp hnext
      exact (Nodes.keeps_addRow? path.key).alongHeader path.parents _ _ hdraft hnodes
  | pair path tree =>
      obtain ⟨nodes, hnodes, rfl⟩ := Option.map_eq_some_iff.mp hnext
      exact (Nodes.keeps_assign? path hstatement).alongHeader draft.current _ _ hdraft hnodes

/-- A document that can be read is an ordered tree. -/
theorem ordered_of_document {text : String} {tree : Tree}
    (htree : document? o text = some tree) : tree.Ordered := by
  simp only [document?, Option.bind_eq_bind, Option.bind_eq_some_iff] at htree
  obtain ⟨read, hread, draft, hdraft, heq⟩ := htree
  cases heq
  exact foldlM_some_induction (fun draft : Draft => Nodes.Ordered o draft.nodes)
    Nodes.ordered_nil
    (fun statement hmem former next hformer hnext =>
      ordered_of_step hformer (ordered_of_statements hread statement hmem) hnext) hdraft

end Toml

theorem ordered_of_fileLayer {files : FileTree} {path : String} {tree : Tree}
    (htree : fileLayer files path = .ok tree) : tree.Ordered := by
  unfold fileLayer at htree
  split at htree
  next =>
    cases htree
    exact Tree.ordered_empty _
  next =>
    split at htree
    next hdocument =>
      cases htree
      exact Toml.ordered_of_document hdocument
    next => cases htree

theorem ordered_of_requestedLayer {files : FileTree} {path : String} {tree : Tree}
    (htree : requestedLayer files path = .ok tree) : tree.Ordered := by
  unfold requestedLayer at htree
  split at htree
  · split at htree
    · exact ordered_of_fileLayer htree
    · cases htree
  · cases htree

/-! ## The environment -/

namespace Environment

open Toml (Scanner Yields)

theorem yields_itemsUpTo {α : Type} {item : Scanner α} {holds : α → Prop}
    (hitem : Yields item holds) (close : Char) :
    Yields (itemsUpTo close item) fun values => ∀ value ∈ values, holds value := by
  intro cs
  fun_induction itemsUpTo close item cs with
  | case1 cs hclosed =>
      intro values left hvalues
      cases hvalues
      simp
  | case3 cs hopen value rest hshorter hread ih =>
      intro values left hvalues
      obtain ⟨⟨later, left'⟩, hlater, heq⟩ := Option.map_eq_some_iff.mp hvalues
      cases heq
      exact List.forall_mem_cons.mpr ⟨hitem _ _ _ hread, ih later left hlater⟩
  | case5 cs hopen value rest hread =>
      intro values left hvalues
      cases hvalues
      exact List.forall_mem_singleton.mpr (hitem _ _ _ hread)
  | _ => simp

theorem yields_pair {value : Scanner Tree} (hvalue : Yields value Tree.Ordered) :
    Yields (pair value) fun pair => pair.2.Ordered := by
  intro cs pair rest hpair
  simp only [Environment.pair, Option.bind_eq_bind, Option.bind_eq_some_iff] at hpair
  obtain ⟨⟨name, afterKey⟩, -, hpair⟩ := hpair
  split at hpair
  · obtain ⟨⟨tree, afterValue⟩, htree, heq⟩ := Option.bind_eq_some_iff.mp hpair
    cases heq
    exact hvalue _ _ _ htree
  · cases hpair

theorem ordered_word (cs : List Char) : (word cs).Ordered := by
  apply Tree.ordered_of_not_table
  unfold word
  split <;> try split <;> try split
  all_goals rfl

theorem yields_bareValue (depth : Nat) : Yields (bareValue depth) Tree.Ordered := by
  intro cs
  fun_induction bareValue depth cs with
  | case3 depth rest value ih =>
      intro tree left htree
      have hvalue : Yields value Tree.Ordered := by
        intro cs inner after hinner
        obtain ⟨⟨tree, _⟩, htree, heq⟩ := Option.map_eq_some_iff.mp hinner
        cases heq
        exact ih _ _ _ htree
      obtain ⟨⟨pairs, _⟩, hpairs, heq⟩ := Option.map_eq_some_iff.mp htree
      cases heq
      exact Tree.ordered_ofList _ (yields_itemsUpTo (yields_pair hvalue) '}' _ _ _ hpairs)
  | case4 =>
      intro tree left htree
      obtain ⟨_, -, heq⟩ := Option.map_eq_some_iff.mp htree
      cases heq
      exact Tree.ordered_of_not_table rfl
  | case5 =>
      intro tree left htree
      obtain ⟨_, -, heq⟩ := Option.map_eq_some_iff.mp htree
      cases heq
      exact Tree.ordered_of_not_table rfl
  | case7 => simp
  | case8 =>
      intro tree left htree
      cases htree
      exact ordered_word _
  | _ =>
      intro tree left htree
      cases htree
      exact Tree.ordered_of_not_table rfl

theorem ordered_valueOfText (text : String) : (valueOfText text).Ordered := by
  simp only [valueOfText]
  split
  next tree rest htree =>
    split
    · exact yields_bareValue _ _ _ _ htree
    · exact Tree.ordered_of_not_table rfl
  next => exact Tree.ordered_of_not_table rfl

/-- The environment is read into an ordered tree. -/
theorem ordered_settings (environment : Environment) : environment.settings.Ordered := by
  unfold settings
  refine List.foldlRecOn _ _ (Tree.ordered_empty _) fun former hformer tree hmem => ?_
  obtain ⟨entry, -, htree⟩ := List.mem_filterMap.mp hmem
  obtain ⟨path, -, rfl⟩ := Option.map_eq_some_iff.mp htree
  exact hformer.merge ((ordered_valueOfText entry.2).nested _ path)

end Environment

end CardConnector
