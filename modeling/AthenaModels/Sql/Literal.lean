namespace AthenaModels.Sql

def doubled (c : Char) : List Char :=
  if c = '\x27' then ['\x27', '\x27'] else [c]

/-- A text between single quotes; a quote inside it is written twice. -/
def literal (text : String) : String :=
  "'" ++ String.ofList (text.toList.flatMap doubled) ++ "'"

end AthenaModels.Sql
