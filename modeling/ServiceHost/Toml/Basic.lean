set_option autoImplicit false

namespace ServiceHost.Toml

inductive Value where
  | text (t : String)
  | integer (n : Int)
  | real
  | bool (b : Bool)
  | date
  | array (items : List Value)
  | table (members : List (String × Value))
deriving Inhabited

inductive Node where
  | value (v : Value)
  | table (implicit dotted : Bool) (members : List (String × Node))
  | tables (elements : List (List (String × Node)))
deriving Inhabited

abbrev Members := List (String × Node)

mutual
def Node.freeze : Node → Value
  | .value v => v
  | .table _ _ members => .table (freezeMembers members)
  | .tables elements => .array (freezeTables elements)

def freezeMembers : List (String × Node) → List (String × Value)
  | [] => []
  | (name, node) :: rest => (name, node.freeze) :: freezeMembers rest

def freezeTables : List (List (String × Node)) → List Value
  | [] => []
  | members :: rest => .table (freezeMembers members) :: freezeTables rest
end

namespace Members

def get? (members : Members) (key : String) : Option Node := (members.find? (·.1 == key)).map (·.2)

def replace (members : Members) (key : String) (node : Node) : Members :=
  members.map fun member => if member.1 == key then (key, node) else member

def remove (members : Members) (key : String) : Members := members.filter (·.1 != key)

def within {α : Type} (dotted : Bool) (change : Bool → Members → Option (α × Members)) :
    List String → Bool → Members → Option (α × Members)
  | [], here, members => change here members
  | key :: rest, _, members =>
      match get? members key with
      | none => do
          let (result, inner) ← within dotted change rest dotted []
          return (result, members ++ [(key, .table true dotted inner)])
      | some (.value _) => none
      | some (.tables elements) => do
          let (result, inner) ← within dotted change rest false (elements.getLastD [])
          return (result, replace members key (.tables (elements.dropLast ++ [inner])))
      | some (.table implicit own inner) =>
          if dotted && !implicit then none
          else do
            let (result, inner) ← within dotted change rest own inner
            return (result, replace members key (.table implicit own inner))

def assign (path : List String) (value : Value) (members : Members) : Option Members :=
  let route := path.dropLast
  let change (here : Bool) (target : Members) : Option (Unit × Members) := do
    let key ← path.getLast?
    if here == route.isEmpty then none
    if (get? target key).isSome then none
    return ((), target ++ [(key, .value value)])
  (within true change route false members).map (·.2)

end Members

-- A document with the table that its last header opened, which is put in its place when the next
-- header or the end is reached.
structure Draft where
  root : Members := []
  body : Members := []
  path : List String := []
  repeated : Bool := false

namespace Draft

def assign (draft : Draft) (path : List String) (value : Value) : Option Draft :=
  (draft.body.assign path value).map fun body => { draft with body }

def close (draft : Draft) : Option Members :=
  match draft.path.getLast? with
  | none => some draft.body
  | some key =>
      let change (_ : Bool) (parent : Members) : Option (Unit × Members) :=
        if draft.repeated then
          match parent.get? key with
          | none => some ((), parent ++ [(key, .tables [draft.body])])
          | some (.tables elements) => some ((), parent.replace key (.tables (elements ++ [draft.body])))
          | some _ => none
        else if (parent.get? key).isSome then none
        else some ((), parent ++ [(key, .table false false draft.body)])
      (Members.within false change draft.path.dropLast false draft.root).map (·.2)

def openTable (draft : Draft) (path : List String) : Option Draft := do
  let root ← draft.close
  let key ← path.getLast?
  let change (_ : Bool) (parent : Members) : Option (Members × Members) :=
    match parent.get? key with
    | none => some ([], parent)
    | some (.table true false members) => some (members, parent.remove key)
    | some _ => none
  let (body, root) ← Members.within false change path.dropLast false root
  return { root, body, path, repeated := false }

def openElement (draft : Draft) (path : List String) : Option Draft := do
  let root ← draft.close
  let key ← path.getLast?
  let change (_ : Bool) (parent : Members) : Option (Unit × Members) :=
    match parent.get? key with
    | none => some ((), parent)
    | some (.tables _) => some ((), parent)
    | some _ => none
  let (_, root) ← Members.within false change path.dropLast false root
  return { root, body := [], path, repeated := true }

def finish (draft : Draft) : Option Value := draft.close.map fun members => .table (freezeMembers members)

end Draft

end ServiceHost.Toml
