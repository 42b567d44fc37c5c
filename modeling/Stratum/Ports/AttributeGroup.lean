import Stratum.Ports.Status
import Stratum.Verified.Run

/-!
# Attribute groups of the PHAL attribute database

`AttributeGroupInternal` (`stratum/hal/lib/phal/attribute_group.cc`) is a node
of the PHAL attribute database: a group of attributes and child groups laid
out as a message of a schema protobuf. A database query is registered once
at the root, with the paths it asks for; every group the paths reach keeps,
for the query, the paths that go on below it, the path that asks for all of
it, the child groups the query goes into and the attributes it reads, each
with its setter and the path that asks for it. Adding or removing an
attribute or a child group updates what every query registered at the group
keeps, and `TraverseQuery` walks what was kept.

The schema and the attributes are parameters: `Schema` gives a descriptor's
fields by name, and `ManagedAttributes` the alternative of an attribute's
value and its datasource. A query node (`AttributeGroupQueryNode`), which
writes the result message of a query, is modelled by the descriptor of that
message: it is what its checks read. The child groups of a group, kept by the
source in a map of singular groups and a map of repeated families, are one
list keyed by `ChildKey`. Hash maps iterate in insertion order, and a call on
a group is addressed by the `Location` of the group below the root.

Main results (definitions):

* `registerQueryInternal`, `unregisterQuery`, `traverseQuery` — the
  recursive walks over the tree;
* `addAttribute`, `addChildGroup`, `addRepeatedChildGroup`,
  `removeAttribute`, `removeChildGroup`, `removeRepeatedChildGroup` — the
  calls that change the tree;
* `step` — one call of a caller on the database.
-/

namespace Stratum.Ports.AttributeGroup

open Stratum.Ports.Status Stratum.Verified.InPlaceLoops

/-! ## Schema, attributes and query paths -/

/-- `FieldDescriptor::CppType`, with the enum type of an enum field and the
message type of a message field. -/
inductive CppType (D E : Type)
  | int32
  | int64
  | uint32
  | uint64
  | double
  | float
  | bool
  | enum (enumType : E)
  | string
  | message (messageType : D)

/-- `cpp_type() == CPPTYPE_MESSAGE`. -/
def CppType.isMessage {D E : Type} : CppType D E → Bool
  | .message _ => true
  | _ => false

/-- The fields of a `FieldDescriptor` the groups read. -/
structure FieldDescriptor (D E : Type) where
  cppType : CppType D E
  isRepeated : Bool

/-- The schema: `Descriptor::FindFieldByName` and `Descriptor::name`. -/
structure Schema (D E : Type) where
  findFieldByName : D → String → Option (FieldDescriptor D E)
  name : D → String

/-- The alternative an `Attribute` variant holds; an enum value carries its
enum type. -/
inductive AttributeType (E : Type)
  | char
  | int32
  | int64
  | uint32
  | uint64
  | float
  | double
  | bool
  | string
  | enumValue (enumType : E)
  deriving DecidableEq

/-- `absl::holds_alternative`: the same alternative, whatever the enum type. -/
def AttributeType.sameAlternative {E : Type} [DecidableEq E] :
    AttributeType E → AttributeType E → Bool
  | .enumValue _, .enumValue _ => true
  | t, t' => t == t'

/-- What the groups read of a `ManagedAttribute`: the alternative of
`GetValue()` and `GetDataSource()`. -/
structure ManagedAttributes (A S E : Type) where
  valueType : A → AttributeType E
  dataSource : A → Option S

/-- `PathEntry` (`attribute_database_interface.h`). -/
structure PathEntry where
  name : String
  index : Int
  indexed : Bool
  all : Bool
  terminalGroup : Bool
  deriving DecidableEq, Repr

/-- `Path`: the entries from the root down. -/
abbrev Path := List PathEntry

/-- A child group: the one of a singular field, or the `index`-th of a
repeated field. -/
inductive ChildKey
  | single (name : String)
  | repeated (name : String) (index : Nat)
  deriving DecidableEq, Repr

/-- The field a child group is in. -/
def ChildKey.name : ChildKey → String
  | .single name => name
  | .repeated name _ => name

/-- The entry at a child's depth of a path that goes on below the child
selects it: `RegisterQueryChild` wants a non-indexed entry with its name,
`RegisterQueryRepeatedChild` an indexed one with `all` or its index. -/
def ChildKey.selectsThrough : ChildKey → PathEntry → Bool
  | .single name, e => !e.indexed && e.name == name
  | .repeated name index, e => e.indexed && e.name == name && (e.all || e.index == index)

/-- The last entry of a path is a terminal group entry that selects the
child. -/
def ChildKey.selectsTerminal : ChildKey → PathEntry → Bool
  | .single name, e => e.terminalGroup && e.name == name
  | .repeated name index, e => e.terminalGroup && e.name == name && (e.all || e.index == index)

/-- The child is a member of the repeated family `name`. -/
def ChildKey.inFamily (name : String) : ChildKey → Bool
  | .single _ => false
  | .repeated name' _ => name' == name

/-- A group below the root, by the child keys from the root down. -/
abbrev Location := List ChildKey

/-! ## Groups -/

/-- `RegisteredQuery::AttributeInfo`: the setter, modelled by the field of the
query node it writes, and the path that asks for the attribute. -/
structure AttributeInfo where
  setter : String
  queryPath : Path
  deriving DecidableEq, Repr

/-- `RegisteredQuery`: what a group keeps for a query. -/
structure RegisteredQuery (D A : Type) where
  paths : List Path
  queryAllFields : Option Path
  queryNode : D
  registeredChildGroups : List ChildKey
  registeredAttributes : List (A × AttributeInfo)

/-- `AttributeGroupInternal`: its schema descriptor, its depth below the root,
its attributes by name, its child groups, what it keeps for each registered
query, the count of its attributes of each datasource, and its version. -/
structure AttributeGroupInternal (D A Q S : Type) where
  descriptor : D
  depth : Nat
  attributes : List (String × A)
  children : List (ChildKey × AttributeGroupInternal D A Q S)
  registeredQueries : List (Q × RegisteredQuery D A)
  requiredDataSources : List (S × Nat)
  versionId : Nat

namespace AttributeGroupInternal

variable {D A Q S : Type}

/-- `new AttributeGroupInternal(descriptor, depth)`. -/
def new (descriptor : D) (depth : Nat) : AttributeGroupInternal D A Q S :=
  ⟨descriptor, depth, [], [], [], [], 0⟩

/-- `AttributeGroup::From`: the root, at depth `0`. -/
def fromDescriptor (descriptor : D) : AttributeGroupInternal D A Q S := new descriptor 0

end AttributeGroupInternal

/-- A hash map's `m[k] = v`: the entry at `k` replaced, or a new entry. -/
def assocSet {κ β : Type} [DecidableEq κ] (k : κ) (v : β) (m : List (κ × β)) : List (κ × β) :=
  if (m.lookup k).isSome then m.map fun e => if e.1 = k then (k, v) else e else m ++ [(k, v)]

/-- `required_data_sources_[datasource]++`. -/
def incrementDataSource {S : Type} [DecidableEq S] (dataSource : S) (m : List (S × Nat)) :
    List (S × Nat) :=
  assocSet dataSource ((m.lookup dataSource).getD 0 + 1) m

/-- The count of a datasource decremented, and its entry erased at zero. The
source finds the entry of every attribute's datasource; a missing entry is
left alone. -/
def decrementDataSource {S : Type} [DecidableEq S] (dataSource : S) (m : List (S × Nat)) :
    List (S × Nat) :=
  match m.lookup dataSource with
  | some n => if n - 1 = 0 then m.filter (·.1 != dataSource) else assocSet dataSource (n - 1) m
  | none => m

section Model

variable {D E A Q S : Type} [DecidableEq E] [DecidableEq A] [DecidableEq Q] [DecidableEq S]
  (schema : Schema D E)

/-! ## Query nodes -/

/-- `AttributeGroupQueryNode::GetFieldDescriptor`. -/
def nodeFieldDescriptor (node : D) (name : String) : StatusOr (FieldDescriptor D E) :=
  match schema.findFieldByName node name with
  | some field => .ok field
  | none => .error ⟨.errInvalidParam, schema.name node ++ " has no such field: \"" ++ name ++ "\"."⟩

/-- `AttributeGroupQueryNode::AddAttribute`: the setter of a field that is not
a message. -/
def nodeAddAttribute (node : D) (name : String) : StatusOr String := do
  let field ← nodeFieldDescriptor schema node name
  retCheck (!field.cppType.isMessage)
    ("Attempted to query \"" ++ name ++ "\" as an attribute, but it's an attribute group. " ++
      "This shouldn't happen!")
  pure name

/-- `AttributeGroupQueryNode::AddChildGroup` and `AddRepeatedChildGroup`: the
node of the child group's message. -/
def nodeAddChildGroup (node : D) : ChildKey → StatusOr D
  | .single name => do
      let field ← nodeFieldDescriptor schema node name
      match field.cppType, field.isRepeated with
      | .message messageType, false => pure messageType
      | _, _ => .error ⟨.errInvalidParam, "Called AddChildGroup for \"" ++ name ++
          "\", which is not a singular child group. This shouldn't happen!"⟩
  | .repeated name _ => do
      let field ← nodeFieldDescriptor schema node name
      match field.cppType, field.isRepeated with
      | .message messageType, true => pure messageType
      | _, _ => .error ⟨.errInvalidParam, "Called AddChildGroup for \"" ++ name ++
          "\", which is not a repeated child group. This shouldn't happen!"⟩

/-- `AttributeGroupQueryNode::RemoveField`: the field must exist. -/
def nodeRemoveField (node : D) (name : String) : StatusOr Unit := do
  let _ ← nodeFieldDescriptor schema node name
  pure ()

/-! ## Registering a query -/

/-- The loop over the paths in `RegisterQueryAttribute`: the last path that
ends at the attribute `name` of a group at `depth`, or else the path that asks
for the whole group. -/
def attributeQueryPath (depth : Nat) (name : String) : Option Path → List Path →
    StatusOr (Option Path)
  | queryApplies, [] => .ok queryApplies
  | queryApplies, path :: rest =>
      if path.length ≤ depth then .error ⟨.errUnknown, "Should never encounter a zero length path."⟩
      else if path.length = depth + 1 ∧
          path[depth]?.any (fun e => !e.terminalGroup && e.name == name) then
        attributeQueryPath depth name (some path) rest
      else attributeQueryPath depth name queryApplies rest

/-- The loop over the paths in `RegisterQueryChild` and
`RegisterQueryRepeatedChild`: whether a path selects the child, the path that
asks for all of it, and the paths that go on below it. -/
def childQueryPaths (depth : Nat) (key : ChildKey) :
    Option Path × Option Path × List Path → List Path →
      StatusOr (Option Path × Option Path × List Path)
  | acc, [] => .ok acc
  | (queryApplies, queryAllSubfields, queryPaths), path :: rest =>
      if path.length ≤ depth then .error ⟨.errUnknown, "Should never encounter a zero length path."⟩
      else if path.length > depth + 1 ∧ path[depth]?.any key.selectsThrough then
        childQueryPaths depth key (some path, queryAllSubfields, queryPaths ++ [path]) rest
      else if path.length = depth + 1 ∧ path[depth]?.any key.selectsTerminal then
        childQueryPaths depth key (some path, some path, queryPaths) rest
      else childQueryPaths depth key (queryApplies, queryAllSubfields, queryPaths) rest

/-- `RegisterQueryAttribute`: an attribute a path asks for is recorded with
its setter and that path, unless the attribute is recorded already. -/
def registerQueryAttribute (depth : Nat) (managedAttribute : A) (name : String)
    (info : RegisteredQuery D A) : StatusOr Unit × RegisteredQuery D A :=
  match attributeQueryPath depth name info.queryAllFields info.paths with
  | .error e => (.error e, info)
  | .ok none => (.ok (), info)
  | .ok (some path) =>
      match nodeAddAttribute schema info.queryNode name with
      | .error e => (.error e, info)
      | .ok setter =>
          -- `flat_hash_map::insert` keeps the entry an attribute has already
          if (info.registeredAttributes.lookup managedAttribute).isSome then (.ok (), info)
          else (.ok (), { info with
            registeredAttributes :=
              info.registeredAttributes ++ [(managedAttribute, ⟨setter, path⟩)] })

/-- `RegisterQueryChild` and `RegisterQueryRepeatedChild`, for the child
`key`: when a path selects it, the query is registered in it, with the paths
that go on below it and its query-all path, by `registerInternal`, and it is
recorded as a child the query goes into. -/
def registerQueryChildWith (depth : Nat) (key : ChildKey) (info : RegisteredQuery D A)
    (child : AttributeGroupInternal D A Q S)
    (registerInternal : D → List Path → Option Path →
      StatusOr Unit × AttributeGroupInternal D A Q S) :
    StatusOr Unit × RegisteredQuery D A × AttributeGroupInternal D A Q S :=
  match childQueryPaths depth key (info.queryAllFields, info.queryAllFields, []) info.paths with
  | .error e => (.error e, info, child)
  | .ok (none, _, _) => (.ok (), info, child)
  | .ok (some _, queryAllSubfields, queryPaths) =>
      match nodeAddChildGroup schema info.queryNode key with
      | .error e => (.error e, info, child)
      | .ok subNode =>
          match registerInternal subNode queryPaths queryAllSubfields with
          | (.error e, child) => (.error e, info, child)
          | (.ok (), child) =>
              (.ok (), { info with registeredChildGroups := info.registeredChildGroups.insert key },
                child)

/-- `RegisterQueryChild`. -/
def registerQueryChild (depth : Nat) (name : String) (info : RegisteredQuery D A)
    (child : AttributeGroupInternal D A Q S)
    (registerInternal : D → List Path → Option Path →
      StatusOr Unit × AttributeGroupInternal D A Q S) :
    StatusOr Unit × RegisteredQuery D A × AttributeGroupInternal D A Q S :=
  registerQueryChildWith schema depth (.single name) info child registerInternal

/-- `RegisterQueryRepeatedChild`, for the `index`-th group of the family. -/
def registerQueryRepeatedChild (depth : Nat) (index : Nat) (name : String)
    (info : RegisteredQuery D A) (child : AttributeGroupInternal D A Q S)
    (registerInternal : D → List Path → Option Path →
      StatusOr Unit × AttributeGroupInternal D A Q S) :
    StatusOr Unit × RegisteredQuery D A × AttributeGroupInternal D A Q S :=
  registerQueryChildWith schema depth (.repeated name index) info child registerInternal

/-- The entry `RegisterQueryInternal` leaves for a query before its loops:
`registered_queries_[query]` with the paths that reach the group, the query-all
path unless one is kept, and the query node. -/
def prepareQuery (existing : Option (RegisteredQuery D A)) (node : D) (paths : List Path)
    (queryAll : Option Path) : RegisteredQuery D A :=
  match existing with
  | some info => { info with paths, queryAllFields := info.queryAllFields <|> queryAll, queryNode := node }
  | none => ⟨paths, queryAll, node, [], []⟩

mutual

/-- `RegisterQueryInternal`: the query is registered at the group, then at its
attributes, then at its child groups, down the tree. -/
def registerQueryInternal (q : Q) (node : D) (paths : List Path) (queryAll : Option Path) :
    AttributeGroupInternal D A Q S → StatusOr Unit × AttributeGroupInternal D A Q S
  | g@⟨_, depth, attributes, children, registeredQueries, _, _⟩ =>
      let info := prepareQuery (registeredQueries.lookup q) node paths queryAll
      match foldStatus (fun info (e : String × A) =>
          registerQueryAttribute schema depth e.2 e.1 info) info attributes with
      | (.error e, info) =>
          (.error e, { g with registeredQueries := assocSet q info registeredQueries })
      | (.ok (), info) =>
          let (status, info, children) := registerQueryChildren q depth info children
          (status, { g with children, registeredQueries := assocSet q info registeredQueries })

/-- The loop of `RegisterQueryInternal` over the child groups. -/
def registerQueryChildren (q : Q) (depth : Nat) (info : RegisteredQuery D A) :
    List (ChildKey × AttributeGroupInternal D A Q S) →
      StatusOr Unit × RegisteredQuery D A × List (ChildKey × AttributeGroupInternal D A Q S)
  | [] => (.ok (), info, [])
  | (key, child) :: rest =>
      match registerQueryChildWith schema depth key info child
          (fun node paths queryAll => registerQueryInternal q node paths queryAll child) with
      | (.error e, info, child) => (.error e, info, (key, child) :: rest)
      | (.ok (), info, child) =>
          let (status, info, rest) := registerQueryChildren q depth info rest
          (status, info, (key, child) :: rest)

end

/-- The checks of `ValidateQuery` on one entry of a path, against its field. -/
def validateEntry (entry : PathEntry) (field : FieldDescriptor D E) (isLast : Bool) :
    StatusOr Unit :=
  let fieldIsChildGroup := field.cppType.isMessage
  if isLast then
    if fieldIsChildGroup then
      retCheck entry.terminalGroup
        ("Encountered a query path ending in the attribute group \"" ++ entry.name ++
          "\", but not marked as a terminal group.")
    else
      retCheck (!entry.terminalGroup)
        ("Encountered a query path that marks the attribute \"" ++ entry.name ++
          "\" as a terminal group.")
  else do
    retCheck fieldIsChildGroup
      ("Encountered the attribute \"" ++ entry.name ++
        "\" somewhere other than the last position of a query path.")
    retCheck (!entry.terminalGroup)
      ("Encountered the terminal attribute group \"" ++ entry.name ++
        "\" somewhere other than the last position of a query path.")
    if entry.indexed then do
      retCheck field.isRepeated
        ("Query path entry is marked as indexed, but \"" ++ entry.name ++
          "\" is a singular attribute group.")
      retCheck (entry.all || decide (entry.index ≥ 0))
        "Encountered an indexed query path with a negative index."
    else
      retCheck (!field.isRepeated)
        ("Query path entry  is not marked as indexed, but \"" ++ entry.name ++
          "\" is a repeated attribute group.")

/-- `ValidateQuery` on one path, from the descriptor of the group it starts
at. -/
def validatePath (descriptor : D) : Path → StatusOr Unit
  | [] => .ok ()
  | entry :: rest =>
      match schema.findFieldByName descriptor entry.name with
      | none =>
          .error ⟨.errInvalidParam, "No such field \"" ++ entry.name ++ "\" in attribute group \"" ++
            schema.name descriptor ++ "\"."⟩
      | some field => do
          validateEntry entry field rest.isEmpty
          match field.cppType with
          | .message messageType => validatePath messageType rest
          | _ => validatePath descriptor rest

/-- `ValidateQuery`. -/
def validateQuery (descriptor : D) (paths : List Path) : StatusOr Unit :=
  paths.forM (validatePath schema descriptor)

/-- `RegisterQuery` on the root: the paths are validated against the schema,
then the query is registered down the tree, its node writing the result
message of the root. -/
def registerQuery (q : Q) (paths : List Path) (root : AttributeGroupInternal D A Q S) :
    StatusOr Unit × AttributeGroupInternal D A Q S :=
  match validateQuery schema root.descriptor paths with
  | .error e => (.error e, root)
  | .ok () => registerQueryInternal schema q root.descriptor paths none root

end Model

/-! ## Unregistering and traversing a query -/

section Walks

variable {D A Q S : Type} [DecidableEq Q]

mutual

/-- `UnregisterQuery`: the query is unregistered from the child groups it goes
into, then from the group. -/
def unregisterQuery (q : Q) : AttributeGroupInternal D A Q S → AttributeGroupInternal D A Q S
  | g@⟨_, _, _, children, registeredQueries, _, _⟩ =>
      match registeredQueries.lookup q with
      | none => g
      | some info =>
          { g with
            children := unregisterChildren q info.registeredChildGroups children
            registeredQueries := registeredQueries.filter (·.1 != q) }

/-- The loop of `UnregisterQuery` over the registered child groups. -/
def unregisterChildren (q : Q) (keys : List ChildKey) :
    List (ChildKey × AttributeGroupInternal D A Q S) →
      List (ChildKey × AttributeGroupInternal D A Q S)
  | [] => []
  | (key, child) :: rest =>
      (key, if key ∈ keys then unregisterQuery q child else child) ::
        unregisterChildren q keys rest

end

variable (groupFunction : AttributeGroupInternal D A Q S → StatusOr Unit)
  (attributeFunction : A → Path → String → StatusOr Unit)

mutual

/-- `TraverseQuery`: the child groups the query goes into, then each attribute
it reads, passed to `attributeFunction` with its path and setter, then the
group, passed to `groupFunction`. The result lists the calls of
`attributeFunction`, in order. -/
def traverseQuery (q : Q) :
    AttributeGroupInternal D A Q S → StatusOr (List (A × Path))
  | g@⟨_, _, _, children, registeredQueries, _, _⟩ =>
      match registeredQueries.lookup q with
      | none =>
          .error ⟨.errInvalidParam, "Attempted to traverse a query that is not registered " ++
            "with this attribute group."⟩
      | some info => do
          let childCalls ← traverseChildren q info.registeredChildGroups children
          let attributeCalls ← info.registeredAttributes.mapM fun e => do
            attributeFunction e.1 e.2.queryPath e.2.setter
            pure (e.1, e.2.queryPath)
          groupFunction g
          pure (childCalls ++ attributeCalls)

/-- The loop of `TraverseQuery` over the registered child groups. -/
def traverseChildren (q : Q) (keys : List ChildKey) :
    List (ChildKey × AttributeGroupInternal D A Q S) → StatusOr (List (A × Path))
  | [] => pure []
  | (key, child) :: rest => do
      let childCalls ← if key ∈ keys then traverseQuery q child else pure []
      let restCalls ← traverseChildren q keys rest
      pure (childCalls ++ restCalls)

end

end Walks

/-! ## Changing the tree -/

section Changes

variable {D E A Q S : Type} [DecidableEq E] [DecidableEq A] [DecidableEq Q] [DecidableEq S]
  (schema : Schema D E) (attrs : ManagedAttributes A S E)

/-- `GetField`: the field of the group's message with the name. -/
def getField (g : AttributeGroupInternal D A Q S) (name : String) :
    StatusOr (FieldDescriptor D E) :=
  match schema.findFieldByName g.descriptor name with
  | some field => .ok field
  | none => .error ⟨.errUnknown, "No such field \"" ++ name ++ "\" in protobuf " ++
      schema.name g.descriptor ++ "."⟩

/-- `AttemptAddAttribute<T>`, with `expected` the alternative `T`: the value
must hold it and have a datasource; the attribute is then stored and every
registered query told of it. -/
def attemptAddAttribute (expected : AttributeType E) (name : String) (value : A)
    (g : AttributeGroupInternal D A Q S) : StatusOr Unit × AttributeGroupInternal D A Q S :=
  if !(attrs.valueType value).sameAlternative expected then
    (.error ⟨.errUnknown, "Attempted to assign incorrect type to attribute " ++ name ++ "."⟩, g)
  else
    match attrs.dataSource value with
    | none =>
        (.error ⟨.errUnknown, "Attempted to add attribute " ++ name ++ " with no " ++
          "associated datasource."⟩, g)
    | some dataSource =>
        let (status, registeredQueries) := updateEach (fun _ info =>
          registerQueryAttribute schema g.depth value name info) g.registeredQueries
        (status, { g with
          requiredDataSources := incrementDataSource dataSource g.requiredDataSources
          attributes := assocSet name value g.attributes
          versionId := g.versionId + 1
          registeredQueries })

/-- `RemoveAttribute`: a missing attribute only has its field checked; a
present one is removed from every registered query and from the group. -/
def removeAttribute (name : String) (g : AttributeGroupInternal D A Q S) :
    StatusOr Unit × AttributeGroupInternal D A Q S :=
  match g.attributes.lookup name with
  | none =>
      match getField schema g name with
      | .error e => (.error e, g)
      | .ok field =>
          if field.cppType.isMessage then
            (.error ⟨.errUnknown, "Called RemoveAttribute for attribute group " ++ name ++ "."⟩, g)
          else (.ok (), g)
  | some managedAttribute =>
      let requiredDataSources := match attrs.dataSource managedAttribute with
        | some dataSource => decrementDataSource dataSource g.requiredDataSources
        | none => g.requiredDataSources
      let (status, registeredQueries) := updateEach (fun _ info =>
        let info := { info with
          registeredAttributes := info.registeredAttributes.filter (·.1 != managedAttribute) }
        (nodeRemoveField schema info.queryNode name, info)) g.registeredQueries
      match status with
      | .error e => (.error e, { g with requiredDataSources, registeredQueries })
      | .ok () =>
          (.ok (), { g with
            requiredDataSources
            registeredQueries
            attributes := g.attributes.filter (·.1 != name)
            versionId := g.versionId + 1 })

/-- `AddAttribute`: an attribute already under the name is removed first; the
field must be a scalar, and the value of its type (of its enum type, for an
enum field). -/
def addAttribute (name : String) (value : A) (g : AttributeGroupInternal D A Q S) :
    StatusOr Unit × AttributeGroupInternal D A Q S :=
  let (status, g) :=
    if (g.attributes.lookup name).isSome then removeAttribute schema attrs name g else (.ok (), g)
  match status with
  | .error e =>
      (.error ⟨e.code, e.message ++ "Unexpected error when removing the old definition of " ++
        "attribute \"" ++ name ++ "\"."⟩, g)
  | .ok () =>
      match getField schema g name with
      | .error e => (.error e, g)
      | .ok field =>
          match field.cppType with
          | .int32 => attemptAddAttribute schema attrs .int32 name value g
          | .int64 => attemptAddAttribute schema attrs .int64 name value g
          | .uint32 => attemptAddAttribute schema attrs .uint32 name value g
          | .uint64 => attemptAddAttribute schema attrs .uint64 name value g
          | .float => attemptAddAttribute schema attrs .float name value g
          | .double => attemptAddAttribute schema attrs .double name value g
          | .bool => attemptAddAttribute schema attrs .bool name value g
          | .string => attemptAddAttribute schema attrs .string name value g
          | .enum enumType =>
              match attrs.valueType value with
              | .enumValue valueEnumType =>
                  if valueEnumType = enumType then
                    attemptAddAttribute schema attrs (.enumValue enumType) name value g
                  else
                    (.error ⟨.errUnknown, "Attempted to assign incorrect enum type to " ++ name ++
                      "."⟩, g)
              | _ =>
                  (.error ⟨.errUnknown, "Attempted to assign non-enum type to enum attribute " ++
                    name ++ "."⟩, g)
          | .message _ => (.error ⟨.errUnknown, "Field " ++ name ++ " has unexpected type."⟩, g)

/-- The loop of `AddChildGroup` and `AddRepeatedChildGroup` over the registered
queries: each is told of the new child `key`. -/
def registerChildForQueries (depth : Nat) (key : ChildKey) :
    List (Q × RegisteredQuery D A) → AttributeGroupInternal D A Q S →
      StatusOr Unit × List (Q × RegisteredQuery D A) × AttributeGroupInternal D A Q S
  | [], child => (.ok (), [], child)
  | (q, info) :: rest, child =>
      match registerQueryChildWith schema depth key info child
          (fun node paths queryAll => registerQueryInternal schema q node paths queryAll child) with
      | (.error e, info, child) => (.error e, (q, info) :: rest, child)
      | (.ok (), info, child) =>
          let (status, rest, child) := registerChildForQueries depth key rest child
          (status, (q, info) :: rest, child)

/-- A new empty child `key` of message type `messageType`, stored and told to
every registered query. -/
def addChildGroupWith (key : ChildKey) (messageType : D) (g : AttributeGroupInternal D A Q S) :
    StatusOr Unit × AttributeGroupInternal D A Q S :=
  let (status, registeredQueries, child) :=
    registerChildForQueries schema g.depth key g.registeredQueries
      (AttributeGroupInternal.new messageType (g.depth + 1))
  (status, { g with
    children := g.children ++ [(key, child)]
    versionId := g.versionId + 1
    registeredQueries })

/-- `AddChildGroup`: the field must be a singular message, with no group yet. -/
def addChildGroup (name : String) (g : AttributeGroupInternal D A Q S) :
    StatusOr Unit × AttributeGroupInternal D A Q S :=
  match getField schema g name with
  | .error e => (.error e, g)
  | .ok field =>
      match field.cppType with
      | .message messageType =>
          if field.isRepeated then
            (.error ⟨.errUnknown, "Attempted to create a singular child group in a repeated " ++
              "field. Use AddRepeatedChildGroup instead."⟩, g)
          else if (g.children.lookup (.single name)).isSome then
            (.error ⟨.errUnknown, "Attempted to create two attribute group with name " ++ name ++
              ". Not a repeated field."⟩, g)
          else addChildGroupWith schema (.single name) messageType g
      | _ =>
          (.error ⟨.errUnknown, "Attempted to make a child group, but " ++ name ++
            " is an attribute."⟩, g)

/-- The number of groups of the repeated family `name`. -/
def familySize (g : AttributeGroupInternal D A Q S) (name : String) : Nat :=
  (g.children.filter fun e => e.1.inFamily name).length

/-- `AddRepeatedChildGroup`: the field must be a repeated message; the group
goes at the end of its family. -/
def addRepeatedChildGroup (name : String) (g : AttributeGroupInternal D A Q S) :
    StatusOr Unit × AttributeGroupInternal D A Q S :=
  match getField schema g name with
  | .error e => (.error e, g)
  | .ok field =>
      match field.cppType with
      | .message messageType =>
          if !field.isRepeated then
            (.error ⟨.errUnknown, "Attempted to create a repeated child group in an unrepeated " ++
              "field."⟩, g)
          else addChildGroupWith schema (.repeated name (familySize g name)) messageType g
      | _ =>
          (.error ⟨.errUnknown, "Attempted to make a child group, but " ++ name ++
            " is an attribute."⟩, g)

/-- The children `removed` taken out of every registered query and of the
group, with the field `name` cleared in each query's node. -/
def removeChildren (name : String) (removed : ChildKey → Bool)
    (g : AttributeGroupInternal D A Q S) : StatusOr Unit × AttributeGroupInternal D A Q S :=
  let (status, registeredQueries) := updateEach (fun _ info =>
    let info := { info with
      registeredChildGroups := info.registeredChildGroups.filter fun key => !removed key }
    (nodeRemoveField schema info.queryNode name, info)) g.registeredQueries
  match status with
  | .error e => (.error e, { g with registeredQueries })
  | .ok () =>
      (.ok (), { g with
        registeredQueries
        children := g.children.filter fun e => !removed e.1
        versionId := g.versionId + 1 })

/-- `RemoveChildGroup`: a missing group only has its field checked. -/
def removeChildGroup (name : String) (g : AttributeGroupInternal D A Q S) :
    StatusOr Unit × AttributeGroupInternal D A Q S :=
  match g.children.lookup (.single name) with
  | none =>
      match getField schema g name with
      | .error e => (.error e, g)
      | .ok field =>
          if !field.cppType.isMessage then
            (.error ⟨.errUnknown, "Called RemoveChildGroup for attribute " ++ name ++ "."⟩, g)
          else if field.isRepeated then
            (.error ⟨.errUnknown, "Called RemoveChildGroup for repeated field " ++ name⟩, g)
          else (.ok (), g)
  | some _ => removeChildren schema name (· == .single name) g

/-- `RemoveRepeatedChildGroup`: the whole family goes; a missing family only
has its field checked. -/
def removeRepeatedChildGroup (name : String) (g : AttributeGroupInternal D A Q S) :
    StatusOr Unit × AttributeGroupInternal D A Q S :=
  if g.children.any fun e => e.1.inFamily name then
    removeChildren schema name (ChildKey.inFamily name) g
  else
    match getField schema g name with
    | .error e => (.error e, g)
    | .ok field =>
        if !field.cppType.isMessage then
          (.error ⟨.errUnknown, "Called RemoveRepeatedChildGroup for attribute " ++ name ++ "."⟩, g)
        else if !field.isRepeated then
          (.error ⟨.errUnknown, "Called RemoveRepeatedChildGroup for singular field " ++ name⟩, g)
        else (.ok (), g)

end Changes

/-! ## Calls on the database -/

namespace AttributeGroupInternal

variable {D A Q S : Type}

/-- The group at a location below `g`. -/
def at? : Location → AttributeGroupInternal D A Q S → Option (AttributeGroupInternal D A Q S)
  | [], g => some g
  | key :: loc, g => (g.children.lookup key).bind (at? loc)

/-- A call on the group at a location: a caller holds a pointer to a group of
the tree only, so a location with no group is left alone. -/
def modifyAt (f : AttributeGroupInternal D A Q S → StatusOr Unit × AttributeGroupInternal D A Q S) :
    Location → AttributeGroupInternal D A Q S → StatusOr Unit × AttributeGroupInternal D A Q S
  | [], g => f g
  | key :: loc, g =>
      match g.children.lookup key with
      | none => (.ok (), g)
      | some child =>
          let (status, child) := modifyAt f loc child
          (status, { g with children := assocSet key child g.children })

end AttributeGroupInternal

/-- A call of a caller on the database: a change to the group at a location,
or a query registered or unregistered at the root. -/
inductive Call (A Q : Type)
  | addAttribute (location : Location) (name : String) (value : A)
  | addChildGroup (location : Location) (name : String)
  | addRepeatedChildGroup (location : Location) (name : String)
  | removeAttribute (location : Location) (name : String)
  | removeChildGroup (location : Location) (name : String)
  | removeRepeatedChildGroup (location : Location) (name : String)
  | registerQuery (query : Q) (paths : List Path)
  | unregisterQuery (query : Q)

section Step

variable {D E A Q S : Type} [DecidableEq E] [DecidableEq A] [DecidableEq Q] [DecidableEq S]
  (schema : Schema D E) (attrs : ManagedAttributes A S E)

/-- One call on the database, from its root. -/
def step (root : AttributeGroupInternal D A Q S) :
    Call A Q → StatusOr Unit × AttributeGroupInternal D A Q S
  | .addAttribute loc name value => root.modifyAt (addAttribute schema attrs name value) loc
  | .addChildGroup loc name => root.modifyAt (addChildGroup schema name) loc
  | .addRepeatedChildGroup loc name => root.modifyAt (addRepeatedChildGroup schema name) loc
  | .removeAttribute loc name => root.modifyAt (removeAttribute schema attrs name) loc
  | .removeChildGroup loc name => root.modifyAt (removeChildGroup schema name) loc
  | .removeRepeatedChildGroup loc name =>
      root.modifyAt (removeRepeatedChildGroup schema name) loc
  | .registerQuery q paths => registerQuery schema q paths root
  | .unregisterQuery q => (.ok (), unregisterQuery q root)

end Step

end Stratum.Ports.AttributeGroup
