/-!
# Shell words

Quoting of arguments for a shell. A quoted argument is one word of the shell whatever characters it
holds: it stands between single quotes, and a single quote in it stands outside them, escaped.
-/

namespace ConnectorSync.Text

def quoteShellChar (c : Char) : List Char :=
  if c = '\'' then ['\'', '\\', '\'', '\''] else [c]

def shellWord (arg : String) : String :=
  String.ofList ('\'' :: arg.toList.flatMap quoteShellChar ++ ['\''])

end ConnectorSync.Text
