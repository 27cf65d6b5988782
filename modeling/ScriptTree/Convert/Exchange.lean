import ScriptTree.Convert.Basic

/-!
# Imports and exports

The concrete tree nests what is imported or exported in clauses. In normalized form the
specifiers are one flat list.
-/

namespace ScriptTree

namespace Converter

variable (c : Converter)

/-! ### Imports -/

/-- The specifier of the name that an import clause starts with, if it starts with one. -/
def defaultSpecifier (clause : Node) (name : NodeRef) : Conversion (List EsNode) := do
  let some n := c.node? name | pure []
  let local_ ← c.child name
  let specifier ← c.buildAt .importDefaultSpecifier clause.pos n.stop [("local", local_)]
  pure [specifier]

/-- The specifiers of the names that an import clause lists, or of the one name for all. -/
def listedSpecifiers (bindings : NodeRef) : Conversion (List EsNode) := do
  let some i := bindings | pure []
  let some n := c.node? i | pure []
  if n.kind = .namespaceImport then
    pure (← c.convert i).toList
  else
    let d ← c.parts .namedImports i n
    (d.get .elements).nodes.filterMapM c.convert

/-- The specifiers of an import clause. -/
def importSpecifiers (clause : NodeRef) : Conversion (List EsNode) := do
  let some i := clause | pure []
  let some n := c.node? i | pure []
  let d ← c.parts .importClause i n
  let first ← c.defaultSpecifier n (d.get .name)
  let others ← c.listedSpecifiers (d.get .namedBindings)
  pure (first ++ others)

/-- An import. -/
def importDeclaration (i : NodeId) (n : Node) : Conversion EsNode := do
  let d ← c.parts .importDecl i n
  let source ← c.child (d.get .moduleSpecifier)
  let specifiers ← c.importSpecifiers (d.get .importClause)
  c.build .importDeclaration n
    [("source", source), ("specifiers", EsValue.ofNodes specifiers)]

/-- The name that a specifier has outside of this module: its property name, if it has one. -/
def outerName (d : Data .specifier) : NodeRef :=
  (d.get .propertyName).or (d.get .name)

/-- One imported name. -/
def importSpecifier (i : NodeId) (n : Node) : Conversion EsNode := do
  let d ← c.parts .specifier i n
  let local_ ← c.child (d.get .name)
  let imported ← c.child (outerName d)
  c.build .importSpecifier n [("local", local_), ("imported", imported)]

/-! ### Exports -/

/-- One exported name. -/
def exportSpecifier (i : NodeId) (n : Node) : Conversion EsNode := do
  let d ← c.parts .specifier i n
  let local_ ← c.child (outerName d)
  let exported ← c.child (d.get .name)
  c.build .exportSpecifier n [("local", local_), ("exported", exported)]

/-- An export: of some names, or of everything, perhaps under one name. -/
def exportDeclaration (i : NodeId) (n : Node) : Conversion EsNode := do
  let d ← c.parts .exportDecl i n
  let source ← c.child (d.get .moduleSpecifier)
  let some j := d.get .exportClause | everything source
  let some clause := c.node? j | everything source
  if clause.kind = .namedExports then
    let named ← c.parts .namedImports j clause
    let specifiers ← c.list (named.get .elements)
    c.build .exportNamedDeclaration n
      [("declaration", EsValue.null), ("specifiers", specifiers), ("source", source)]
  else
    let namespaced ← c.parts .specifier j clause
    let exported ← c.child (namespaced.get .name)
    c.build .exportAllDeclaration n [("source", source), ("exported", exported)]
where
  /-- An export of everything from a module. -/
  everything (source : EsValue) : Conversion EsNode :=
    c.build .exportAllDeclaration n [("source", source)]

/-- An export of one value. -/
def exportAssignment (i : NodeId) (n : Node) : Conversion EsNode := do
  let d ← c.parts .exportAssignment i n
  let expression ← c.child (d.get .expression)
  if d.get .isExportEquals then c.build .tsExportAssignment n [("expression", expression)]
  else c.build .exportDefaultDeclaration n [("declaration", expression)]

end Converter

end ScriptTree
