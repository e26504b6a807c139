import AthenaModels.Profile.Basic
import AthenaModels.Yaml.Cursor
import AthenaModels.Yaml.Tree

namespace AthenaModels.Profile

def readable {α : Type} (what : String) : Option α → Except ConfigError α
  | some value => .ok value
  | none => .error (.parse ("not a " ++ what))

def ofYaml (text : String) : Except ConfigError Profile := do
  let profile ← readable "connection profile" do read? (← Yaml.Cursor.ofText? text)
  profile.validated

def ofFile (content : Except String String) : Except ConfigError Profile := do
  ofYaml (← content.mapError .io)

def ofOutputs (tree : Yaml.Tree) (name : String) (target : Option String) :
    Except ConfigError Profile := do
  let some entry := tree.get? name
    | .error (.invalid "profile" ("no profile named '" ++ name ++ "'"))
  let target ←
    match target with
    | some target => .ok target
    | none => needed ((entry.get? "target").bind Yaml.Tree.text?)
  let some output := (entry.get? "outputs").bind (·.get? target)
    | .error (.invalid "target" ("no output named '" ++ target ++ "'"))
  checkKind ((output.get? "type").bind Yaml.Tree.text?)
  let profile ← readable "connection profile" (read? output)
  profile.validated
where
  needed : Option String → Except ConfigError String
    | some target => .ok target
    | none => .error (.missing "target")
  checkKind : Option String → Except ConfigError Unit
    | none => .ok ()
    | some kind =>
        if kind = "athena" then .ok ()
        else .error (.invalid "type" ("expected 'athena', got '" ++ kind ++ "'"))

def ofProfilesYaml (text name : String) (target : Option String) : Except ConfigError Profile := do
  let tree ← readable "YAML document" (Yaml.Tree.ofText? text)
  ofOutputs tree name target

end AthenaModels.Profile
