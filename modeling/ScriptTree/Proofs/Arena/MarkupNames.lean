import ScriptTree.Convert.Token
import ScriptTree.Proofs.Arena.Targets

/-!
# Names in markup

A node names markup if it is the name of an attribute, the name of a tag, or a segment of a dotted
name of a tag (`ScriptTree.Arena.NamesMarkup`). The climb that tells such a node from others looks
only at the kinds of the nodes above it. It finds all of them
(`ScriptTree.Arena.IsLinkedTree.climbNames_of_namesMarkup`), and no others where tags and
attributes hold no names but their own
(`ScriptTree.Arena.IsLinkedTree.namesMarkup_of_climbNames`).
-/

namespace ScriptTree

namespace SyntaxKind

/-- Names, and what dotted names are made of. -/
def isNameOrAccess : SyntaxKind → Bool
  | .identifier | .propertyAccessExpression => true
  | _ => false

end SyntaxKind

namespace Arena

/-- A node has the name of a tag. -/
inductive HasTag (a : Arena) (j i : NodeId) : Prop
  | opening {n : Node} {d : Data .jsxOpening} (hn : a.nodes[j]? = some n)
      (hk : n.kind = .jsxOpeningElement ∨ n.kind = .jsxSelfClosingElement)
      (hd : a.data? .jsxOpening n = some d) (htag : d.get .tagName = some i)
  | closing {n : Node} {d : Data .jsxClosing} (hn : a.nodes[j]? = some n)
      (hk : n.kind = .jsxClosingElement) (hd : a.data? .jsxClosing n = some d)
      (htag : d.get .tagName = some i)

/-- **The name of a tag, or a segment of it** if it is dotted. -/
inductive IsTagName (a : Arena) : NodeId → Prop
  | whole {j i : NodeId} (h : a.HasTag j i) : IsTagName a i
  | segment {j i : NodeId} (hj : IsTagName a j)
      (hk : a.kind? (some j) = some .propertyAccessExpression) (hi : a.IsChild j i) : IsTagName a i

/-- An attribute has a name. -/
def HasAttributeName (a : Arena) (j i : NodeId) : Prop :=
  ∃ n d, a.nodes[j]? = some n ∧ n.kind = .jsxAttribute ∧ a.data? .jsxAttribute n = some d ∧
    d.get .name = some i

/-- **A node names markup**: a tag, or an attribute. -/
def NamesMarkup (a : Arena) (i : NodeId) : Prop :=
  a.IsTagName i ∨ ∃ j, a.HasAttributeName j i

/-- Tags and attributes hold no names but their own, and attributes have no dotted ones. -/
structure HasPlainMarkup (a : Arena) (root : NodeRef) : Prop where
  hasTag : ∀ j i n m, a.Reaches root j → a.IsChild j i → a.nodes[j]? = some n →
    a.nodes[i]? = some m → n.kind.isNamedTag = true → m.kind.isNameOrAccess = true → a.HasTag j i
  hasAttributeName : ∀ j i n m, a.Reaches root j → a.IsChild j i → a.nodes[j]? = some n →
    a.nodes[i]? = some m → n.kind = .jsxAttribute → m.kind.isNameOrAccess = true →
    a.HasAttributeName j i ∧ m.kind = .identifier

variable {a : Arena} {root : NodeRef} {i j : NodeId} {n m : Node}

/-- It is enough to look at the names that tags and attributes of the arena hold. -/
theorem hasPlainMarkup_of_forall
    (h : ∀ j < a.nodes.size, ∀ i ∈ a.children (some j), ∀ n ∈ a.nodes[j]?, ∀ m ∈ a.nodes[i]?,
      m.kind.isNameOrAccess = true →
      (n.kind = .jsxOpeningElement ∨ n.kind = .jsxSelfClosingElement →
        (a.data? .jsxOpening n).any (fun d => d.get .tagName == some i) = true) ∧
      (n.kind = .jsxClosingElement →
        (a.data? .jsxClosing n).any (fun d => d.get .tagName == some i) = true) ∧
      (n.kind = .jsxAttribute → m.kind = .identifier ∧
        (a.data? .jsxAttribute n).any (fun d => d.get .name == some i) = true))
    (root : NodeRef) : a.HasPlainMarkup root where
  hasTag j i n m _ hchild hn hm hk hname := by
    obtain ⟨hopening, hclosing, -⟩ := h j (lt_size_of_isChild hchild) i hchild n hn m hm hname
    simp only [SyntaxKind.isNamedTag, List.contains_iff_mem, List.mem_cons, List.not_mem_nil,
      or_false] at hk
    by_cases hk' : n.kind = .jsxClosingElement
    · obtain ⟨d, hd, htag⟩ := Option.any_eq_true .. |>.mp (hclosing hk')
      exact .closing hn hk' hd (beq_iff_eq.mp htag)
    · have hk : n.kind = .jsxOpeningElement ∨ n.kind = .jsxSelfClosingElement := by tauto
      obtain ⟨d, hd, htag⟩ := Option.any_eq_true .. |>.mp (hopening hk)
      exact .opening hn hk hd (beq_iff_eq.mp htag)
  hasAttributeName j i n m _ hchild hn hm hk hname := by
    obtain ⟨-, -, hattribute⟩ := h j (lt_size_of_isChild hchild) i hchild n hn m hm hname
    obtain ⟨hidentifier, hany⟩ := hattribute hk
    obtain ⟨d, hd, hname⟩ := Option.any_eq_true .. |>.mp hany
    exact ⟨⟨n, d, hn, hk, hd, beq_iff_eq.mp hname⟩, hidentifier⟩

theorem HasTag.isChild (h : a.HasTag j i) : a.IsChild j i := by
  rcases h with ⟨hn, -, hd, htag⟩ | ⟨hn, -, hd, htag⟩
  · have hfield : .tagName ∈ Pool.jsxOpening.layout := by decide
    exact isChild_of_nodeAt hn hd (Pool.mem_childFields (by decide) hfield _) htag
  · have hfield : .tagName ∈ Pool.jsxClosing.layout := by decide
    exact isChild_of_nodeAt hn hd (Pool.mem_childFields (by decide) hfield _) htag

theorem HasAttributeName.isChild (h : a.HasAttributeName j i) : a.IsChild j i := by
  obtain ⟨n, d, hn, -, hd, hname⟩ := h
  have hfield : .name ∈ Pool.jsxAttribute.layout := by decide
  exact isChild_of_nodeAt hn hd (Pool.mem_childFields (by decide) hfield _) hname

/-- What names markup is listed by a tag, an attribute, or a part of a dotted name of a tag. -/
theorem NamesMarkup.exists_isChild (h : a.NamesMarkup i) : ∃ j n, a.IsChild j i ∧
    a.nodes[j]? = some n ∧ (n.kind.isNamedTag = true ∨ n.kind = .jsxAttribute ∨
      n.kind = .propertyAccessExpression ∧ a.IsTagName j) := by
  rcases h with (htag | ⟨hj, hk, hi⟩) | ⟨j, hname⟩
  · have hchild := htag.isChild
    rcases htag with ⟨hn, hk, -, -⟩ | ⟨hn, hk, -, -⟩
    · exact ⟨_, _, hchild, hn, .inl (by rcases hk with hk | hk <;> rw [hk] <;> rfl)⟩
    · exact ⟨_, _, hchild, hn, .inl (by rw [hk]; rfl)⟩
  · obtain ⟨n, hn, hk⟩ := Option.map_eq_some_iff.mp hk
    exact ⟨_, n, hi, hn, .inr (.inr ⟨hk, hj⟩)⟩
  · have hchild := hname.isChild
    obtain ⟨n, d, hn, hk, -⟩ := hname
    exact ⟨j, n, hchild, hn, .inr (.inl hk)⟩

/-! ### The climb -/

/-- The climb goes on to the parent, which is there. -/
theorem climbNames_eq_goOn (h : a.climbNames i = .goOn j) :
    a.parent (some i) = some j ∧ j < a.nodes.size := by
  rw [climbNames] at h
  cases hp : a.parent (some i) with
  | none => simp [hp] at h
  | some p =>
    simp only [hp] at h
    split at h <;> cases h
    next hk =>
      obtain ⟨n, hn, -⟩ := Option.map_eq_some_iff.mp hk
      exact ⟨rfl, (Array.getElem?_eq_some_iff.mp hn).1⟩

theorem explores_climbNames (a : Arena) : a.Explores a.climbNames :=
  explores_of_lt fun _ _ h => (climbNames_eq_goOn h).2

/-- **What a name belongs to is found, or that it belongs to nothing**, if there is no cycle
above. -/
theorem exists_search_climbNames (hlinked : a.IsLinked) (h : a.AcyclicAbove i) :
    ∃ found, a.search a.climbNames i = some found :=
  exists_search_of_parent hlinked (fun hturn => (climbNames_eq_goOn hturn).1) h

variable {t : SourceToken}

/-- **The type of a token is never decided** if there is no end to the look-up of its node, or to the
climb from there, and only then. -/
theorem tokenType_eq_none_iff : a.tokenType root t = none ↔
    (t.kind = .stringLiteral ∨ t.kind = .identifier ∨ t.kind = .privateIdentifier) ∧
        a.nodeContaining root t.start t.stop = none ∨
      (t.kind = .identifier ∨ t.kind = .privateIdentifier) ∧
        ∃ i, a.nodeContaining root t.start t.stop = some (some i) ∧
          ∀ fuel, loop a.climbNames fuel i = none := by
  have hname : a.isMarkupName root t = none ↔ a.nodeContaining root t.start t.stop = none ∨
      ∃ i, a.nodeContaining root t.start t.stop = some (some i) ∧
        ∀ fuel, loop a.climbNames fuel i = none := by
    simp only [← (explores_climbNames a).search_eq_none_iff]
    rw [isMarkupName]
    rcases a.nodeContaining root t.start t.stop with _ | _ | i <;> simp
  rw [tokenType]
  split
  case h_9 hk => simp [isAttributeValue, hk]
  case h_10 hk | h_11 hk => simp [hname, hk]
  all_goals simp_all

/-- **Whether a token is part of a name in markup is decided** where no node lies below itself. -/
theorem exists_isMarkupName (hlinked : a.IsLinked) (h : a.Acyclic) (root : NodeRef)
    (t : SourceToken) : ∃ isName, a.isMarkupName root t = some isName := by
  obtain ⟨found, hfound⟩ := exists_nodeContaining (h.acyclicFrom root) t.start t.stop
  rw [isMarkupName, hfound]
  cases found with
  | none => exact ⟨false, rfl⟩
  | some i => exact exists_search_climbNames hlinked (h.acyclicAbove i)

/-- **The type of a token is decided**, then. -/
theorem exists_tokenType (hlinked : a.IsLinked) (h : a.Acyclic) (root : NodeRef) (t : SourceToken) :
    ∃ type, a.tokenType root t = some type := by
  obtain ⟨found, hfound⟩ := exists_nodeContaining (h.acyclicFrom root) t.start t.stop
  obtain ⟨isName, hname⟩ := exists_isMarkupName hlinked h root t
  rw [tokenType, isAttributeValue, hfound, hname]
  split <;> exact ⟨_, rfl⟩

namespace IsLinkedTree

/-- **One step of the climb** to what a name belongs to. -/
theorem climbNames_iff (h : a.IsLinkedTree root) (hi : a.Reaches root i)
    (hn : a.nodes[i]? = some n) (hchild : a.IsChild j i) (hm : a.nodes[j]? = some m) :
    a.search a.climbNames i = some true ↔ m.kind.isNamedTag = true ∨ m.kind = .jsxAttribute ∨
      m.kind = .propertyAccessExpression ∧ a.search a.climbNames j = some true := by
  have hup := h.parent_eq hi hn hchild
  have hanswer {found : Bool} (hturn : a.climbNames i = .answer found) :
      a.search a.climbNames i = some found := search_of_answer hturn
  have hgoOn (hturn : a.climbNames i = .goOn j) :
      a.search a.climbNames i = a.search a.climbNames j := a.explores_climbNames.search_of_goOn hturn
  simp only [climbNames, hup, kind?_eq hm] at hanswer hgoOn
  split at hanswer <;> simp_all [SyntaxKind.isNamedTag]

/-- **The climb from the name of a tag or an attribute finds what it belongs to.** -/
theorem climbNames_of_namesMarkup (h : a.IsLinkedTree root) (hi : a.Reaches root i)
    (hn : a.nodes[i]? = some n) (hnames : a.NamesMarkup i) :
    a.search a.climbNames i = some true := by
  refine hi.induction (P := fun i => ∀ n, a.nodes[i]? = some n → a.NamesMarkup i →
    a.search a.climbNames i = some true) ?_ ?_ n hn hnames
  · intro r hr n _ hnames
    obtain ⟨j, _, hchild, -⟩ := hnames.exists_isChild
    exact absurd hchild (h.not_isChild hr)
  · -- Only one node lists the node: a tag, an attribute, or a part of a dotted name as well.
    intro j i hj hchild ih n hn hnames
    obtain ⟨j', m, hchild', hm, hkind⟩ := hnames.exists_isChild
    obtain rfl := h.eq_of_isChild_of_reaches (hj.isChild hchild) hchild hchild'
    rw [h.climbNames_iff (hj.isChild hchild) hn hchild hm]
    exact hkind.imp_right (.imp_right fun htag => ⟨htag.1, ih m hm (.inl htag.2)⟩)

/-- **The climb from any other name finds none**, if tags and attributes hold no names but their
own. -/
theorem namesMarkup_of_climbNames (h : a.IsLinkedTree root) (hplain : a.HasPlainMarkup root)
    (hi : a.Reaches root i) (hn : a.nodes[i]? = some n) (hk : n.kind.isNameOrAccess = true)
    (hfound : a.search a.climbNames i = some true) : a.NamesMarkup i := by
  refine hi.induction (P := fun i => ∀ n, a.nodes[i]? = some n → n.kind.isNameOrAccess = true →
    a.search a.climbNames i = some true → a.NamesMarkup i) ?_ ?_ n hn hk hfound
  · intro r hr n _ _ hfound
    have hparent : a.parent (some r) = none := by
      rw [← hr]
      exact h.parent_root
    have hturn : a.climbNames r = .answer false := by rw [climbNames, hparent]
    rw [search_of_answer hturn] at hfound
    cases hfound
  · intro j i hj hchild ih n hn hk hfound
    obtain ⟨m, hm⟩ : ∃ m, a.nodes[j]? = some m :=
      ⟨_, Array.getElem?_eq_getElem (lt_size_of_isChild hchild)⟩
    rcases (h.climbNames_iff (hj.isChild hchild) hn hchild hm).mp hfound with
      htag | hattribute | ⟨haccess, hup⟩
    · exact .inl (.whole (hplain.hasTag j i m n hj hchild hm hn htag hk))
    · exact .inr ⟨j, (hplain.hasAttributeName j i m n hj hchild hm hn hattribute hk).1⟩
    · rcases ih m hm (by rw [haccess]; rfl) hup with htag | ⟨l, hname⟩
      · exact .inl (.segment htag (by rw [kind?_eq hm, haccess]) hchild)
      · -- An attribute would have a dotted name.
        have hup := hname.isChild
        obtain ⟨p, -, hp, hpk, -⟩ := hname
        have hplainname := hplain.hasAttributeName l j p m (h.isClosed j l hj hup) hup hp hm hpk
          (by rw [haccess]; rfl)
        rw [haccess] at hplainname
        cases hplainname.2

end IsLinkedTree

end Arena

end ScriptTree
