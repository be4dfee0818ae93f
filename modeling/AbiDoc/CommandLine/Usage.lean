/-!
# Usage texts

What the program prints about its own use: one usage and one help text for the program and for its
one command, laid out for eighty columns.
-/

namespace AbiDoc.CommandLine

/-- Whose arguments are being read. -/
inductive Level where
  /-- The program's own arguments. -/
  | program
  /-- The arguments of the `merge` command. -/
  | merge
  deriving DecidableEq, Repr

/-- The name by which messages call the program or the command. -/
def Level.title : Level → String
  | .program => "natspec-docgen"
  | .merge => "natspec-docgen merge"

/-- How it is called. -/
def Level.usage : Level → String
  | .program => "usage: natspec-docgen [-h] [--verbose] \x7bmerge\x7d ...\n"
  | .merge =>
    "usage: natspec-docgen merge [-h] [--contract CONTRACT] [--output OUTPUT]\n" ++
    "                            [--indent INDENT]\n" ++
    "                            path\n"

/-- What its arguments mean. -/
def Level.details : Level → String
  | .program =>
    "\nMerge contract ABI, devdoc and userdoc into one description\n\n" ++
    "positional arguments:\n" ++
    "  \x7bmerge\x7d        Available commands\n" ++
    "    merge        Merge documentation for contracts in a compiler output file\n\n" ++
    "options:\n" ++
    "  -h, --help     show this help message and exit\n" ++
    "  --verbose, -v  Log progress to stderr\n"
  | .merge =>
    "\npositional arguments:\n" ++
    "  path                  solc standard-JSON output or Hardhat build-info file\n\n" ++
    "options:\n" ++
    "  -h, --help            show this help message and exit\n" ++
    "  --contract CONTRACT, -c CONTRACT\n" ++
    "                        Contract to merge, as Name or path/File.sol:Name\n" ++
    "                        (repeatable; default: all)\n" ++
    "  --output OUTPUT, -o OUTPUT\n" ++
    "                        Write JSON to this file instead of stdout\n" ++
    "  --indent INDENT       JSON indentation (default: 2)\n"

/-- The whole help text. -/
def Level.help (level : Level) : String := level.usage ++ level.details

end AbiDoc.CommandLine
