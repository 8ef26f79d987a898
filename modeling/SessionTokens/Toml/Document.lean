import SessionTokens.Toml.Value

/-! # A settings file

A file is a sequence of sections, each with a header and members. A header names a table, or the
next of a list of tables. A table may have one section, and its subtables may come before it or
after it. A table whose section begins with the mark of a moment is that moment and has no subtables;
a file that begins with the mark has no settings.
-/

namespace SessionTokens.Toml

/-- What a header names: a table by its path, or a further table of a list. -/
structure Header where
  path : List String
  listed : Bool
  deriving DecidableEq, Repr

/-- A section; the one at the start of a file has the empty path. -/
structure Section where
  header : Header
  members : List (String × Value)

/-- Takes the rest of a header after its opening brackets. -/
def takeHeader (listed : Bool) (tokens : List Token) : Option (Header × List Token) :=
  match takeDottedName (skipBlanks tokens) with
  | some (path, .rightBracket :: rest) =>
      if listed then
        match rest with
        | .rightBracket :: rest => some (⟨path, true⟩, rest)
        | _ => none
      else some (⟨path, false⟩, rest)
  | _ => none

/-- Takes the end of a line, with a comment before it. -/
def takeLineEnd (tokens : List Token) : Option (List Token) :=
  let rest := match skipBlanks tokens with
    | .comment :: rest => rest
    | rest => rest
  match rest with
  | [] => some []
  | .newline :: rest => some rest
  | _ => none

/-- One line with something on it. -/
inductive Line where
  | header (header : Header)
  | member (names : List String) (value : Value)

/-- Takes a line with a name and a value. -/
def takeAssignment (tokens : List Token) : Option (Line × List Token) := do
  let (names, rest) ← takeDottedName tokens
  match skipBlanks rest with
  | .equals :: rest =>
      let (value, rest) ← takeValue (2 * rest.length + 2) (skipBlanks rest)
      some (.member names value, rest)
  | _ => none

/-- Takes a line that begins here. -/
def takeLine (tokens : List Token) : Option (Line × List Token) := do
  let (line, rest) ←
    match tokens with
    | .leftBracket :: .leftBracket :: rest =>
        (takeHeader true rest).map fun (header, rest) => (.header header, rest)
    | .leftBracket :: rest =>
        (takeHeader false rest).map fun (header, rest) => (.header header, rest)
    | tokens => takeAssignment tokens
  let rest ← takeLineEnd rest
  some (line, rest)

/-- Takes all lines. The fuel bounds their number. -/
def takeAllLines : Nat → List Token → Option (List Line)
  | 0, _ => none
  | fuel + 1, tokens =>
      match skipLines tokens with
      | none => none
      | some [] => some []
      | some tokens =>
          (takeLine tokens).bind fun (line, rest) => (takeAllLines fuel rest).map (line :: ·)

/-- Collects lines into sections. -/
def collect (current : Section) : List Line → Option (List Section)
  | [] => some [current]
  | .header header :: rest => (collect ⟨header, []⟩ rest).map (current :: ·)
  | .member names value :: rest =>
      match addMember value names current.members with
      | none => none
      | some members => collect { current with members } rest

/-- What stands under a name while sections are put together. -/
inductive Node where
  /-- A value, to which nothing can be added. -/
  | value (value : Value)
  /-- A table, and whether it had its section. -/
  | table (done : Bool) (members : List (String × Node))
  /-- A list of tables, the last one first. -/
  | tables (elements : List (List (String × Node)))

/-- The members of a section as nodes. -/
def nodesOf (members : List (String × Value)) : List (String × Node) :=
  members.map fun (name, value) => (name, .value value)

/-- What a section makes of the node under the last name of its path. -/
def place (listed : Bool) (added : List (String × Node)) : Option Node → Option Node
  | none => some (if listed then .tables [added] else .table true added)
  | some (.table false members) =>
      if listed then none else some (.table true (members ++ added))
  | some (.tables elements) => if listed then some (.tables (added :: elements)) else none
  | some _ => none

/-- Puts a section into a tree of nodes. -/
def addSection (listed : Bool) (added : List (String × Node)) :
    List String → List (String × Node) → Option (List (String × Node))
  | [], nodes => some (nodes ++ added)
  | [name], nodes =>
      (place listed added (nodes.lookup name)).map fun node => Setting.insert name node nodes
  | name :: rest, nodes =>
      match nodes.lookup name with
      | none => do
          let inner ← addSection listed added rest []
          some (Setting.insert name (.table false inner) nodes)
      | some (.table done inner) => do
          let inner ← addSection listed added rest inner
          some (Setting.insert name (.table done inner) nodes)
      | some (.tables (last :: before)) => do
          let last ← addSection listed added rest last
          some (Setting.insert name (.tables (last :: before)) nodes)
      | some _ => none

/-- Puts all sections together. -/
def addSections : List Section → List (String × Node) → Option (List (String × Node))
  | [], nodes => some nodes
  | s :: rest, nodes => do
      let nodes ←
        addSection s.header.listed (nodesOf s.members) s.header.path nodes
      addSections rest nodes

/-- The values among nodes, if there is nothing else. -/
def valuesOf? : List (String × Node) → Option (List (String × Value))
  | [] => some []
  | (name, .value value) :: rest => (valuesOf? rest).map ((name, value) :: ·)
  | _ => none

/-- The moment that the nodes of a table with the mark stand for. -/
def momentOf? (nodes : List (String × Node)) : Option Setting := (valuesOf? nodes).bind markedMoment?

mutual

/-- The setting of a node. -/
def Node.toSetting? : Node → Option Setting
  | .value value => value.toSetting?
  | .table _ members =>
      if isMarked members then momentOf? members else (nodeSettings? members).map .table
  | .tables elements => (tableSettings? elements).map fun settings => .list settings.reverse

/-- The settings of the nodes of a table. No name may be used twice. -/
def nodeSettings? : List (String × Node) → Option (List (String × Setting))
  | [] => some []
  | (name, node) :: rest =>
      if rest.any (·.1 == name) then none
      else do
        let setting ← node.toSetting?
        let settings ← nodeSettings? rest
        some ((name, setting) :: settings)

/-- The settings of a list of tables. -/
def tableSettings? : List (List (String × Node)) → Option (List Setting)
  | [] => some []
  | members :: rest => do
      let setting ←
        if isMarked members then momentOf? members else (nodeSettings? members).map .table
      let settings ← tableSettings? rest
      some (setting :: settings)

end

theorem momentOf?_hasDistinctNames {nodes : List (String × Node)} {setting : Setting}
    (h : momentOf? nodes = some setting) : setting.HasDistinctNames := by
  obtain ⟨members, -, hmoment⟩ := Option.bind_eq_some_iff.mp h
  exact markedMoment?_hasDistinctNames hmoment

mutual

theorem Node.toSetting?_hasDistinctNames : ∀ {node : Node} {setting : Setting},
    node.toSetting? = some setting → setting.HasDistinctNames
  | .value value, _, h => by
      rw [Node.toSetting?] at h
      exact Value.toSetting?_hasDistinctNames h
  | .table _ members, _, h => by
      rw [Node.toSetting?] at h
      split at h
      next => exact momentOf?_hasDistinctNames h
      next =>
        obtain ⟨settings, hsettings, rfl⟩ := Option.map_eq_some_iff.mp h
        exact (nodeSettings?_hasDistinctNames hsettings).1
  | .tables elements, _, h => by
      rw [Node.toSetting?] at h
      obtain ⟨settings, hsettings, rfl⟩ := Option.map_eq_some_iff.mp h
      refine .list fun setting hsetting => ?_
      exact tableSettings?_haveDistinctNames hsettings setting (List.mem_reverse.mp hsetting)

theorem nodeSettings?_hasDistinctNames : ∀ {nodes : List (String × Node)}
    {settings : List (String × Setting)}, nodeSettings? nodes = some settings →
      (Setting.table settings).HasDistinctNames ∧ settings.map Prod.fst = nodes.map Prod.fst
  | [], _, h => by
      rw [nodeSettings?] at h
      cases h
      exact ⟨.table .nil (List.forall_mem_nil _), rfl⟩
  | (name, node) :: rest, _, h => by
      rw [nodeSettings?] at h
      split at h
      next => cases h
      next hunused =>
        simp only [Option.bind_eq_bind, Option.bind_eq_some_iff, Option.some.injEq] at h
        obtain ⟨setting, hsetting, settings, hsettings, rfl⟩ := h
        obtain ⟨hdistinct, hnames⟩ := nodeSettings?_hasDistinctNames hsettings
        refine ⟨.cons ?_ (Node.toSetting?_hasDistinctNames hsetting) hdistinct, ?_⟩
        · rw [hnames]
          simpa using hunused
        · rw [List.map_cons, List.map_cons, hnames]

theorem tableSettings?_haveDistinctNames : ∀ {elements : List (List (String × Node))}
    {settings : List Setting}, tableSettings? elements = some settings →
      ∀ setting ∈ settings, setting.HasDistinctNames
  | [], _, h => by
      rw [tableSettings?] at h
      cases h
      exact List.forall_mem_nil _
  | members :: rest, _, h => by
      simp only [tableSettings?, Option.bind_eq_bind] at h
      split at h <;> simp only [Option.bind_eq_some_iff, Option.some.injEq] at h
      next =>
        obtain ⟨setting, hsetting, settings, hsettings, rfl⟩ := h
        exact List.forall_mem_cons.mpr ⟨momentOf?_hasDistinctNames hsetting,
          tableSettings?_haveDistinctNames hsettings⟩
      next =>
        obtain ⟨setting, hsetting, settings, hsettings, rfl⟩ := h
        obtain ⟨inner, hinner, rfl⟩ := Option.map_eq_some_iff.mp hsetting
        exact List.forall_mem_cons.mpr ⟨(nodeSettings?_hasDistinctNames hinner).1,
          tableSettings?_haveDistinctNames hsettings⟩

end

/-- The settings of sections. -/
def settingsOf? (sections : List Section) : Option (List (String × Setting)) :=
  match sections with
  | root :: _ =>
      if isMarked root.members then (markedMoment? root.members).map fun _ => []
      else (addSections sections []).bind nodeSettings?
  | [] => some []

/-- The settings of a file, if it is well-formed. -/
def parse (text : List Char) : Option (List (String × Setting)) := do
  let tokens ← tokens text
  let lines ← takeAllLines (tokens.length + 1) tokens
  let sections ← collect ⟨⟨[], false⟩, []⟩ lines
  settingsOf? sections

theorem settingsOf?_hasDistinctNames {sections : List Section} {settings : List (String × Setting)}
    (h : settingsOf? sections = some settings) : (Setting.table settings).HasDistinctNames := by
  unfold settingsOf? at h
  split at h
  next =>
    split at h
    next =>
      obtain ⟨moment, -, rfl⟩ := Option.map_eq_some_iff.mp h
      exact .table .nil (List.forall_mem_nil _)
    next =>
      obtain ⟨nodes, -, hnodes⟩ := Option.bind_eq_some_iff.mp h
      exact (nodeSettings?_hasDistinctNames hnodes).1
  next =>
    cases h
    exact .table .nil (List.forall_mem_nil _)

theorem parse_hasDistinctNames {text : List Char} {settings : List (String × Setting)}
    (h : parse text = some settings) : (Setting.table settings).HasDistinctNames := by
  simp only [parse, Option.bind_eq_bind, Option.bind_eq_some_iff] at h
  obtain ⟨_, -, _, -, _, -, hsettings⟩ := h
  exact settingsOf?_hasDistinctNames hsettings

end SessionTokens.Toml
