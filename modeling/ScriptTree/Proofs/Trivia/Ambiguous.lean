import ScriptTree.Proofs.Scan.Rereads
import ScriptTree.Proofs.Trivia.NextToken

/-!
# Tokens whose meaning depends on the tree

A closing brace may continue a template, a slash may start a regular expression, and greater signs
may be one operator or several tokens. The walk asks the innermost node there which of these it is,
and then reads what that node says the source has (`ScriptTree.Trivia.step_at_innermost`).
-/

namespace ScriptTree

/-- The operator of a binary expression stands at an offset: behind the left operand, and in front
of the right one. -/
def Arena.OperatorAt (a : Arena) (n : Node) (p : Nat) (k : SyntaxKind) : Prop :=
  ∃ d left right, a.data? .binary n = some d ∧ d.get .operatorToken = k ∧
    a.node? (d.get .left) = some left ∧ a.node? (d.get .right) = some right ∧
    left.stop ≤ p ∧ p < right.pos

/-- A binary expression has only one operator. -/
theorem Arena.OperatorAt.unique {a : Arena} {n : Node} {p : Nat} {k k' : SyntaxKind}
    (h : a.OperatorAt n p k) (h' : a.OperatorAt n p k') : k = k' := by
  obtain ⟨d, _, _, hd, rfl, -⟩ := h
  obtain ⟨d', _, _, hd', rfl, -⟩ := h'
  rw [Option.some.inj (hd.symm.trans hd')]

namespace Trivia

variable {a : Arena} {root : NodeRef} {s : Scanner} {i : NodeId} {n : Node} {text cs : Text}
  {l : Lexeme} {target : ScriptTarget}

theorem isOperatorStart_iff {p : Nat} : isOperatorStart a n p = true ↔
    ∃ k, isCompoundGreater k = true ∧ a.OperatorAt n p k := by
  rw [isOperatorStart]
  constructor
  · intro h
    split at h
    · cases h
    · next d hd =>
      rw [Bool.and_eq_true] at h
      obtain ⟨hk, h⟩ := h
      split at h
      · next left right hleft hright =>
        simp only [Bool.and_eq_true, decide_eq_true_eq] at h
        exact ⟨_, hk, d, left, right, hd, rfl, hleft, hright, h⟩
      · cases h
  · rintro ⟨_, hk, d, left, right, hd, rfl, hleft, hright, hle, hlt⟩
    simp [hd, hk, hleft, hright, hle, hlt]

/-- No operator of several signs stands at an offset. -/
theorem isOperatorStart_eq_false {p : Nat}
    (h : ∀ k, a.OperatorAt n p k → isCompoundGreater k = false) :
    isOperatorStart a n p = false := by
  rw [Bool.eq_false_iff]
  intro hstart
  obtain ⟨k, hk, hoperator⟩ := isOperatorStart_iff.mp hstart
  rw [h k hoperator] at hk
  cases hk

/-- What a greater sign goes on to is an operator of several signs. -/
theorem isCompoundGreater_of_greater? {kind : SyntaxKind} {m : Nat}
    (h : Lexeme.greater? cs = some (kind, m)) : isCompoundGreater kind = true := by
  unfold Lexeme.greater? at h
  split at h <;> cases h <;> rfl

/-- Outside of all texts between tags the walk reads on. -/
theorem markupEnd?_eq_none {p : Nat}
    (h : ∀ n ∈ a.nodes, n.kind = .jsxText → ¬ (n.pos ≤ p ∧ p < n.stop)) :
    markupEnd? (markupSpans a) p = none := by
  rw [Option.eq_none_iff_forall_ne_some]
  intro stop hstop
  obtain ⟨i, n, hn, hkind, hle, hlt, -⟩ := exists_text_of_markupEnd? hstop
  exact h n (Array.mem_of_getElem? hn) hkind ⟨hle, hlt⟩

/-! ### Tokens that are read at first -/

/-- A slash that starts no comment is read alone, or with the equals sign behind it. -/
theorem read?_slash (target : ScriptTarget) (atStart : Bool) (hline : cs.head? ≠ some '/')
    (hblock : cs.head? ≠ some '*') :
    ∃ l, Lexeme.read? target atStart ('/' :: cs) = some l ∧
      (l.kind = .slashToken ∧ l.width = 1 ∨
        l.kind = .slashEqualsToken ∧ l.width = 2 ∧ cs.head? = some '=') := by
  have hread : Lexeme.read? target atStart ('/' :: cs) = some (Lexeme.token target '/' cs) := by
    simp [Lexeme.read?, Text.isLineBreak, Text.isBlank, Text.inRanges, hline, hblock]
  refine ⟨_, hread, ?_⟩
  by_cases hequals : cs.head? = some '='
  · obtain ⟨rest, rfl⟩ := List.head?_eq_some_iff.mp hequals
    exact .inr ⟨rfl, rfl, rfl⟩
  · left
    have hpunctuator : Lexeme.punctuator? ('/' :: cs) = some (.slashToken, 1) := by
      cases cs with
      | nil => rfl
      | cons c cs =>
        have hc : c ≠ '=' := fun heq => hequals (by rw [heq]; rfl)
        simp [Lexeme.punctuator?, hc]
    have htoken : Lexeme.token target '/' cs = Lexeme.punctuator .slashToken 1 ('/' :: cs) := by
      simp [Lexeme.token, hpunctuator, Text.isDigit]
    rw [htoken]
    exact ⟨rfl, rfl⟩

/-- A closing brace is read alone. -/
theorem read?_closeBrace (target : ScriptTarget) (atStart : Bool) (cs : Text) :
    ∃ l, Lexeme.read? target atStart ('\x7d' :: cs) = some l ∧ l.kind = .closeBraceToken ∧
      l.width = 1 := by
  refine ⟨Lexeme.punctuator .closeBraceToken 1 ('\x7d' :: cs), ?_, rfl, rfl⟩
  simp [Lexeme.read?, Lexeme.token, Lexeme.punctuator?, Text.isLineBreak, Text.isBlank,
    Text.inRanges, Text.isDigit]

/-- A greater sign is read alone. -/
theorem read?_greater (target : ScriptTarget) (atStart : Bool) (cs : Text) :
    ∃ l, Lexeme.read? target atStart ('>' :: cs) = some l ∧ l.kind = .greaterThanToken ∧
      l.width = 1 := by
  refine ⟨Lexeme.punctuator .greaterThanToken 1 ('>' :: cs), ?_, rfl, rfl⟩
  simp [Lexeme.read?, Lexeme.token, Lexeme.punctuator?, Text.isLineBreak, Text.isBlank,
    Text.inRanges, Text.isDigit]

/-! ### What the innermost node makes of a token -/

/-- The walk is about to read a token, outside of all texts between tags, and a node is the
innermost one there. -/
structure Meets (a : Arena) (root : NodeRef) (s : Scanner) (i : NodeId) (n : Node) : Prop where
  ready : Ready s
  markup : markupEnd? (markupSpans a) s.pos = none
  innermost : a.IsInnermost root s.pos i
  node : a.nodes[i]? = some n

namespace Meets

/-- **A token that may mean something else is read as the innermost node says**, if the node
contains the whole token as it was read at first. -/
theorem step_eq (hs : Meets a root s i n) (h : a.IsNested root)
    (hcs : s.text.dropBytes? s.pos = some cs)
    (hl : Lexeme.read? s.target (s.pos == 0) cs = some l) (htrivia : l.kind.isTrivia = false)
    (hambiguous : isAmbiguous s.text ⟨l.kind, s.pos, s.pos + l.width⟩ = true) (hwidth : 0 < l.width)
    (hinside : a.Covers i (s.pos + l.width - 1)) :
    step a root (markupSpans a) s =
      match reread? a n (s.accept s.pos s.pos l {}) ⟨l.kind, s.pos, s.pos + l.width⟩ with
      | none => .ok (.token ⟨l.kind, s.pos, s.pos + l.width⟩, s.accept s.pos s.pos l {})
      | some (kind, stop, s') => .ok (.token ⟨kind, s.pos, stop⟩, s') := by
  have hnode : a.nodeContaining root s.pos (s.pos + l.width) = some (some i) :=
    h.nodeContaining_of_isInnermost hs.innermost (by omega) hinside
  rw [step_of_read hs.ready hs.markup hcs hl htrivia]
  dsimp only
  rw [if_pos hambiguous, resolve, hnode, Option.map_some, Arena.node?_some, hs.node, readAs]
  cases reread? a n (s.accept s.pos s.pos l {}) ⟨l.kind, s.pos, s.pos + l.width⟩ <;> rfl

/-- A closing brace at the start of a piece of a template is the first character of this piece. -/
theorem step_of_closeBrace (hs : Meets a root s i n) (h : a.IsNested root) (hpos : n.pos = s.pos)
    (hkind : n.kind = .templateMiddle ∨ n.kind = .templateTail)
    (hcs : s.text.dropBytes? s.pos = some ('\x7d' :: cs)) :
    ∃ s', step a root (markupSpans a) s = .ok (.token
      ⟨Lexeme.templateKind false (Lexeme.templateRun 0 cs).ending, s.pos,
        s.pos + 1 + (Lexeme.templateRun 0 cs).raw.byteLength⟩, s') := by
  have hrest : s.text.dropBytes? (s.pos + 1) = some cs := Text.dropBytes?_succ rfl hcs
  obtain ⟨l, hl, hk, hwidth⟩ := read?_closeBrace s.target (s.pos == 0) cs
  have hstep := hs.step_eq h hcs hl (by rw [hk]; rfl) (by simp [isAmbiguous, hk]) (by omega)
    (by rw [hwidth]; exact hs.innermost.covers)
  rw [reread?, if_pos ⟨hk, beq_iff_eq.mpr hpos, hkind⟩] at hstep
  rw [hstep]
  simp [Scanner.rescanTemplate, Scanner.accept, hrest]

/-- A slash at the start of a regular expression is read again as one. -/
theorem step_of_slash (hs : Meets a root s i n) (h : a.IsNested root) (hpos : n.pos = s.pos)
    (hkind : n.kind = .regularExpressionLiteral)
    (hcs : s.text.dropBytes? s.pos = some ('/' :: cs)) (hline : cs.head? ≠ some '/')
    (hblock : cs.head? ≠ some '*') (hinside : cs.head? = some '=' → a.Covers i (s.pos + 1)) :
    ∃ s', step a root (markupSpans a) s = .ok (.token ⟨.regularExpressionLiteral, s.pos,
      s.pos + (Lexeme.regex s.target cs).width⟩, s') := by
  have hrest : s.text.dropBytes? (s.pos + 1) = some cs := Text.dropBytes?_succ rfl hcs
  obtain ⟨l, hl, hslash⟩ := read?_slash s.target (s.pos == 0) hline hblock
  have hkinds : l.kind = .slashToken ∨ l.kind = .slashEqualsToken := by
    rcases hslash with ⟨hk, -⟩ | ⟨hk, -⟩
    · exact .inl hk
    · exact .inr hk
  have hcovers : a.Covers i (s.pos + l.width - 1) := by
    rcases hslash with ⟨-, hwidth⟩ | ⟨-, hwidth, hequals⟩ <;> rw [hwidth]
    · exact hs.innermost.covers
    · exact hinside hequals
  have hstep := hs.step_eq h hcs hl (by rcases hkinds with hk | hk <;> rw [hk] <;> rfl)
    (by rcases hkinds with hk | hk <;> simp [isAmbiguous, hk]) (by omega) hcovers
  have hbrace : l.kind ≠ .closeBraceToken := by rcases hkinds with hk | hk <;> rw [hk] <;> decide
  rw [reread?, if_neg fun h => hbrace h.1, if_pos ⟨hkinds, beq_iff_eq.mpr hpos, hkind⟩] at hstep
  rw [hstep]
  simp [Scanner.rescanSlash, Scanner.accept, hrest, hkinds, Lexeme.regex]

/-- A greater sign is read again where the operator of the innermost node stands. -/
theorem step_of_greater (hs : Meets a root s i n) (h : a.IsNested root)
    (hcs : s.text.dropBytes? s.pos = some ('>' :: cs))
    (hoperator : isOperatorStart a n s.pos = true) {kind : SyntaxKind} {m : Nat}
    (hgreater : Lexeme.greater? cs = some (kind, m)) :
    ∃ s', step a root (markupSpans a) s =
      .ok (.token ⟨kind, s.pos, s.pos + 1 + m⟩, s') := by
  have hrest : s.text.dropBytes? (s.pos + 1) = some cs := Text.dropBytes?_succ rfl hcs
  obtain ⟨l, hl, hk, hwidth⟩ := read?_greater s.target (s.pos == 0) cs
  have hstep := hs.step_eq h hcs hl (by rw [hk]; rfl) (by simp [isAmbiguous, hk]) (by omega)
    (by rw [hwidth]; exact hs.innermost.covers)
  rw [reread?, if_neg (by simp [hk]), if_neg (by simp [hk]), if_pos ⟨hk, hoperator⟩] at hstep
  rw [hstep]
  simp [Scanner.rescanGreater, Scanner.accept, hk, hwidth, hrest, hgreater]

/-- A greater sign stands alone where no operator and no name starts. -/
theorem step_of_lone_greater (hs : Meets a root s i n) (h : a.IsNested root)
    (hcs : s.text.dropBytes? s.pos = some ('>' :: cs))
    (hidentifier : n.kind = .identifier → n.pos ≠ s.pos)
    (hoperator : isOperatorStart a n s.pos = false) :
    ∃ s', step a root (markupSpans a) s =
      .ok (.token ⟨.greaterThanToken, s.pos, s.pos + 1⟩, s') := by
  obtain ⟨l, hl, hk, hwidth⟩ := read?_greater s.target (s.pos == 0) cs
  have hstep := hs.step_eq h hcs hl (by rw [hk]; rfl) (by simp [isAmbiguous, hk]) (by omega)
    (by rw [hwidth]; exact hs.innermost.covers)
  have hname : ¬ ((n.pos == s.pos) = true ∧ n.kind = .identifier ∧ s.pos + 1 < n.stop) :=
    fun hname => hidentifier hname.2.1 (beq_iff_eq.mp hname.1)
  rw [reread?, if_neg (by simp [hk]), if_neg (by simp [hk]), if_neg (by simp [hoperator]),
    if_neg (by simp [hk]), hwidth, if_neg hname] at hstep
  rw [hstep, hk]
  exact ⟨_, rfl⟩

end Meets

/-! ### Tokens that agree with their nodes -/

/-- A walk outside of all texts between tags meets the innermost node. -/
theorem IsOnWay.meets (hs : IsOnWay a root text target s)
    (houtside : ∀ n ∈ a.nodes, n.kind = .jsxText → ¬ (n.pos ≤ s.pos ∧ s.pos < n.stop))
    (hi : a.IsInnermost root s.pos i) (hn : a.nodes[i]? = some n)
    (hcs : text.dropBytes? s.pos = some cs) :
    Meets a root s i n ∧ s.text.dropBytes? s.pos = some cs :=
  ⟨⟨(hs.ready hcs).1, markupEnd?_eq_none houtside, hi, hn⟩, (hs.ready hcs).2⟩

section

variable (h : a.IsNested root) (hs : IsOnWay a root text target s)
  (houtside : ∀ n ∈ a.nodes, n.kind = .jsxText → ¬ (n.pos ≤ s.pos ∧ s.pos < n.stop))
  (hi : a.IsInnermost root s.pos i) (hn : a.nodes[i]? = some n)

include h hs houtside hi hn

/-- A piece of a template is one token. -/
theorem step_at_template (hkind : n.kind = .templateMiddle ∨ n.kind = .templateTail)
    (hpos : n.pos = s.pos) {body : Text} (hbody : Text.IsTemplateBody body)
    {ending : Lexeme.TemplateEnd} (hending : ending ≠ .missing)
    (htext : text.slice? n.pos n.stop =
      some ('\x7d' :: (body ++ Lexeme.TemplateEnd.mark ending))) :
    ∃ s', step a root (markupSpans a) s = .ok (.token
      ⟨if ending = .quote then .templateTail else .templateMiddle, n.pos, n.stop⟩, s') := by
  obtain ⟨rest, hrest, hstop⟩ := Text.slice?_eq_some_iff.mp htext
  rw [hpos, List.cons_append, List.append_assoc] at hrest
  obtain ⟨hmeets, hcs⟩ := hs.meets houtside hi hn hrest
  obtain ⟨s', hstep⟩ := hmeets.step_of_closeBrace h hpos hkind hcs
  obtain ⟨hraw, hend⟩ := Lexeme.templateRun_of_isTemplateBody hbody hending rest
  refine ⟨s', ?_⟩
  have hkinds : Lexeme.templateKind false ending =
      if ending = .quote then .templateTail else .templateMiddle := by
    cases ending <;> first | rfl | exact absurd rfl hending
  rw [hstep, hraw, hend, hkinds, hstop, hpos, Text.byteLength_cons, Nat.add_assoc]
  rfl

/-- A regular expression is one token, with all its flags. -/
theorem step_at_regex (hkind : n.kind = .regularExpressionLiteral) (hpos : n.pos = s.pos)
    {body flags : Text} (hbody : Text.IsRegexBody false body) (hne : body ≠ [])
    (hblock : body.head? ≠ some '*')
    (htext : text.slice? n.pos n.stop = some ('/' :: (body ++ '/' :: flags)))
    (hflags : ∀ c ∈ flags, Text.isNamePart target c = true)
    (hnext : ∀ c ∈ charAt? text n.stop, Text.isNamePart target c = false) :
    ∃ s', step a root (markupSpans a) s =
      .ok (.token ⟨.regularExpressionLiteral, n.pos, n.stop⟩, s') := by
  obtain ⟨rest, hrest, hstop⟩ := Text.slice?_eq_some_iff.mp htext
  rw [hstop, charAt?_behind hrest] at hnext
  have hline : body.head? ≠ some '/' := by
    cases hbody with
    | plain _ hslash => exact fun heq => hslash (Option.some.inj heq)
    | _ => simp
  rw [hpos, List.cons_append, List.append_assoc, List.cons_append] at hrest
  obtain ⟨hmeets, hcs⟩ := hs.meets houtside hi hn hrest
  -- A slash with an equals sign behind it is read as one token at first; the node has both.
  have hinside : a.Covers i (s.pos + 1) := by
    have hlength := Text.byteLength_pos.mpr hne
    have hslash : ('/' : Char).utf8Size = 1 := rfl
    rw [Arena.covers_iff hn, hstop, hpos, Text.byteLength_cons, Text.byteLength_append]
    omega
  rw [← List.head?_append_of_ne_nil body hne] at hline hblock
  obtain ⟨s', hstep⟩ := hmeets.step_of_slash h hpos hkind hcs hline hblock fun _ => hinside
  refine ⟨s', ?_⟩
  rw [hs.walksOver.2, Lexeme.width, Lexeme.regex_of_isRegexBody hbody hflags hnext] at hstep
  rw [hstep, hstop, hpos]

/-- A greater sign is the operator of the node there, or it stands alone. -/
theorem step_at_greater {word : String} {k : SyntaxKind}
    (hcs : text.dropBytes? s.pos = some ('>' :: cs)) (hlongest : Text.IsLongest ('>' :: cs) word k)
    (hidentifier : n.kind = .identifier → n.pos ≠ s.pos) :
    (a.OperatorAt n s.pos k → ∃ s', step a root (markupSpans a) s =
      .ok (.token ⟨k, s.pos, s.pos + word.length⟩, s')) ∧
    ((∀ k', a.OperatorAt n s.pos k' → isCompoundGreater k' = false) →
      ∃ s', step a root (markupSpans a) s =
        .ok (.token ⟨.greaterThanToken, s.pos, s.pos + 1⟩, s')) := by
  obtain ⟨hmeets, hcs⟩ := hs.meets houtside hi hn hcs
  refine ⟨fun hoperator => ?_, fun hnone => ?_⟩
  · rcases Lexeme.greater?_of_isLongest hlongest with ⟨rfl, -, hlength⟩ | ⟨m, hgreater, hlength⟩
    · rw [hlength]
      refine hmeets.step_of_lone_greater h hcs hidentifier (isOperatorStart_eq_false ?_)
      exact fun k' hk' => hoperator.unique hk' ▸ rfl
    · have hstart := isOperatorStart_iff.mpr
        ⟨k, isCompoundGreater_of_greater? hgreater, hoperator⟩
      obtain ⟨s', hstep⟩ := hmeets.step_of_greater h hcs hstart hgreater
      refine ⟨s', ?_⟩
      rw [hstep, hlength, Nat.add_assoc, Nat.add_comm 1 m]
  · exact hmeets.step_of_lone_greater h hcs hidentifier (isOperatorStart_eq_false hnone)

end

/-- **What a walk finds where the meaning of a token depends on the tree.**

A piece of a template and a regular expression are one token each, if the source is written as such
up to the end of the node and not any further. And a greater sign is the operator of a binary
expression if this operator is what can be written there at most; it stands alone where no such
operator stands. -/
theorem step_at_innermost (h : a.IsNested root) (hs : IsOnWay a root text target s)
    (houtside : ∀ n ∈ a.nodes, n.kind = .jsxText → ¬ (n.pos ≤ s.pos ∧ s.pos < n.stop))
    (hi : a.IsInnermost root s.pos i) (hn : a.nodes[i]? = some n) :
    (n.kind = .templateMiddle ∨ n.kind = .templateTail → n.pos = s.pos →
      ∀ body, Text.IsTemplateBody body → ∀ ending, ending ≠ .missing →
        text.slice? n.pos n.stop = some ('\x7d' :: (body ++ Lexeme.TemplateEnd.mark ending)) →
        ∃ s', step a root (markupSpans a) s = .ok (.token
          ⟨if ending = .quote then .templateTail else .templateMiddle, n.pos, n.stop⟩, s')) ∧
    (n.kind = .regularExpressionLiteral → n.pos = s.pos →
      ∀ body flags, Text.IsRegexBody false body → body ≠ [] → body.head? ≠ some '*' →
        text.slice? n.pos n.stop = some ('/' :: (body ++ '/' :: flags)) →
        (∀ c ∈ flags, Text.isNamePart target c = true) →
        (∀ c ∈ charAt? text n.stop, Text.isNamePart target c = false) →
        ∃ s', step a root (markupSpans a) s =
          .ok (.token ⟨.regularExpressionLiteral, n.pos, n.stop⟩, s')) ∧
    ∀ cs word k, text.dropBytes? s.pos = some ('>' :: cs) →
      Text.IsLongest ('>' :: cs) word k → (n.kind = .identifier → n.pos ≠ s.pos) →
      (a.OperatorAt n s.pos k → ∃ s', step a root (markupSpans a) s =
        .ok (.token ⟨k, s.pos, s.pos + word.length⟩, s')) ∧
      ((∀ k', a.OperatorAt n s.pos k' → isCompoundGreater k' = false) →
        ∃ s', step a root (markupSpans a) s =
          .ok (.token ⟨.greaterThanToken, s.pos, s.pos + 1⟩, s')) := by
  refine ⟨?_, ?_, ?_⟩
  · intro hkind hpos body hbody ending hending htext
    exact step_at_template h hs houtside hi hn hkind hpos hbody hending htext
  · intro hkind hpos body flags hbody hne hblock htext hflags hnext
    exact step_at_regex h hs houtside hi hn hkind hpos hbody hne hblock htext hflags hnext
  · intro cs word k hcs hlongest hidentifier
    exact step_at_greater h hs houtside hi hn hcs hlongest hidentifier

/-! ### Three tokens that are read again -/

/-- The tree of a template with the substitution `a>>=/=[/]/u`. -/
def shiftedRegex : Arena where
  nodes := #[
    { kind := .identifier, pos := 3, stop := 4, pool := some .identifier, dataIndex := 0 },
    .token .regularExpressionLiteral 7 14,
    { kind := .binaryExpression, pos := 3, stop := 14, pool := some .binary, dataIndex := 0 },
    .token .templateHead 0 3,
    .token .templateTail 14 16,
    { kind := .templateSpan, pos := 3, stop := 16, pool := some .templateSpan, dataIndex := 0 },
    { kind := .templateExpression, pos := 0, stop := 16, pool := some .templateExpr
      dataIndex := 0 }]
  parents := #[some 2, some 2, some 5, some 6, some 5, some 6, none]
  pools := fun
    | .identifier => #[⟨"a", ()⟩]
    | .binary => #[⟨some 0, .greaterThanGreaterThanEqualsToken, some 1, ()⟩]
    | .templateSpan => #[⟨some 2, some 4, ()⟩]
    | .templateExpr => #[⟨some 3, ⟨[some 5], 3, 16, false⟩, ()⟩]
    | _ => #[]

/-- The text of the template. -/
def shiftedText : Text :=
  "\x60$\x7ba>>=/=[/]/u\x7d\x60".toList

/-- The operator, the regular expression and the end of the template are found as the tree has
them. -/
theorem shiftedRegex_tokens :
    ofText? shiftedRegex (some 6) shiftedText .latest =
      some ⟨[⟨.templateHead, 0, 3⟩, ⟨.identifier, 3, 4⟩, ⟨.greaterThanGreaterThanEqualsToken, 4, 7⟩,
        ⟨.regularExpressionLiteral, 7, 14⟩, ⟨.templateTail, 14, 16⟩], []⟩ ∧
    ∀ token ∈ [⟨.greaterThanGreaterThanEqualsToken, 4, 7⟩, ⟨.regularExpressionLiteral, 7, 14⟩,
        ⟨.templateTail, 14, 16⟩],
      ∃ s s', IsOnWay shiftedRegex (some 6) shiftedText .latest s ∧ s.pos = token.start ∧
        step shiftedRegex (some 6) (markupSpans shiftedRegex) s = .ok (.token token, s') := by
  have hnested : shiftedRegex.IsNested (some 6) :=
    Arena.isNested_of_forall (Arena.isTree_of_forall (by decide) (by decide))
      (by decide) (by decide)
  have hplain (p : Nat) : ∀ n ∈ shiftedRegex.nodes, n.kind = .jsxText →
      ¬ (n.pos ≤ p ∧ p < n.stop) := fun n hn hkind => absurd hkind
    ((by decide : ∀ n ∈ shiftedRegex.nodes, n.kind ≠ .jsxText) n hn)
  have hspan : shiftedRegex.Reaches (some 6) 5 := ⟨6, rfl, .single (by decide)⟩
  have htail : shiftedRegex.Reaches (some 6) 4 := hspan.isChild (by decide)
  have hbinary : shiftedRegex.Reaches (some 6) 2 := hspan.isChild (by decide)
  have hregex : shiftedRegex.Reaches (some 6) 1 := hbinary.isChild (by decide)
  have hstops (k p : Nat) (h : (after shiftedRegex (some 6) (markupSpans shiftedRegex) k
      (Scanner.ofText shiftedText false .latest)).map Scanner.pos = some p) :
      ∃ s, IsOnWay shiftedRegex (some 6) shiftedText .latest s ∧ s.pos = p := by
    obtain ⟨s, hs, hp⟩ := Option.map_eq_some_iff.mp h
    exact ⟨s, passes_of_after hs, hp⟩
  refine ⟨by decide +kernel, ?_⟩
  simp only [List.forall_mem_cons, List.not_mem_nil, false_implies, implies_true, and_true]
  refine ⟨?_, ?_, ?_⟩
  · obtain ⟨s, hway, hp⟩ := hstops 2 4 (by decide +kernel)
    have hinnermost : shiftedRegex.IsInnermost (some 6) s.pos 2 :=
      Arena.isInnermost_of_forall hbinary rfl (by rw [hp]; decide) (by rw [hp]; decide)
    obtain ⟨-, -, hgreater⟩ := step_at_innermost hnested hway (hplain s.pos) hinnermost rfl
    have hlongest : Text.IsLongest ('>' :: ">=/=[/]/u\x7d\x60".toList) ">>="
        .greaterThanGreaterThanEqualsToken :=
      ⟨by decide, by decide, by decide⟩
    obtain ⟨s', hstep⟩ := (hgreater _ _ _ (by rw [hp]; decide) hlongest nofun).1
      ⟨_, _, _, rfl, rfl, rfl, rfl, by rw [hp]; decide, by rw [hp]; decide⟩
    exact ⟨s, s', hway, hp, by rw [hstep, hp]; rfl⟩
  · obtain ⟨s, hway, hp⟩ := hstops 3 7 (by decide +kernel)
    have hinnermost : shiftedRegex.IsInnermost (some 6) s.pos 1 :=
      Arena.isInnermost_of_forall hregex rfl (by rw [hp]; decide) (by rw [hp]; decide)
    obtain ⟨-, hslash, -⟩ := step_at_innermost hnested hway (hplain s.pos) hinnermost rfl
    have hbody : Text.IsRegexBody false "=[/]".toList :=
      .plain rfl (by decide) (by decide) (by decide)
        (.opening (.inside rfl (by decide) (by decide) (.closing .nil)))
    have hflags : ∀ c ∈ ['u'], Text.isNamePart .latest c = true := fun c hc => by
      rw [List.mem_singleton.mp hc]
      rfl
    have hbrace : charAt? shiftedText 14 = some '\x7d' := by decide
    obtain ⟨s', hstep⟩ := hslash rfl hp.symm _ ['u'] hbody (by decide) (by decide)
      (by decide) hflags fun c hc => by
        obtain rfl := Option.some.inj (hbrace.symm.trans hc)
        rfl
    exact ⟨s, s', hway, hp, hstep⟩
  · obtain ⟨s, hway, hp⟩ := hstops 4 14 (by decide +kernel)
    have hinnermost : shiftedRegex.IsInnermost (some 6) s.pos 4 :=
      Arena.isInnermost_of_forall htail rfl (by rw [hp]; decide) (by rw [hp]; decide)
    obtain ⟨hbrace, -, -⟩ := step_at_innermost hnested hway (hplain s.pos) hinnermost rfl
    obtain ⟨s', hstep⟩ := hbrace (.inr rfl) hp.symm [] .nil .quote (by decide) (by decide)
    exact ⟨s, s', hway, hp, hstep⟩

end Trivia

end ScriptTree
