import SeriesQuery.Text.Script.Shared

/-!
# Scripts

The characters of a script are those that belong to it alone. Its extension also has the characters
that it shares with a few other scripts.
-/

namespace SeriesQuery

namespace Script

def ofName? (name : String) : Option Script := table.find? (·.names.contains name)

def sharedMembers (s : Script) : CharSet :=
  .unionAll ((shared.filter fun row => row.names.any s.names.contains).map members)

/-- Whether a script stands for characters that are used with many scripts. -/
def isGeneral (s : Script) : Bool := s.names.contains "common" || s.names.contains "inherited"

/-- The characters that are used with a script. What a few scripts share is not general. -/
def extension (s : Script) : CharSet :=
  if s.isGeneral then s.members.difference (.unionAll (shared.map members))
  else s.members.union s.sharedMembers

end Script

namespace CharSet

def ofScript? (name : String) : Option CharSet := (Script.ofName? name).map Script.members

def ofScriptExtension? (name : String) : Option CharSet :=
  (Script.ofName? name).map Script.extension

end CharSet

end SeriesQuery
