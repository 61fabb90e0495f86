import InventoryIds.CommandLine.Arguments

/-!
# Usage

What is shown in place of a command's output when the words of a command line do not make an
invocation.
-/

namespace InventoryIds.CommandLine

def versionText : String := "inventory-ids 0.1.0"

def usage : String := "\n".intercalate
  ["Preview, check and generate custom inventory IDs",
    "",
    "Usage: inventory-ids [OPTIONS] <COMMAND>",
    "",
    "Commands:",
    "  preview <FORMAT>   show an identifier and further examples",
    "  generate <FORMAT>  make identifiers",
    "  check <FORMAT>     report whether a format may be used",
    "  help               show this text",
    "",
    "Options, before or after the command:",
    "  --max-per-kind <N>      the most directives of one kind",
    "  --max-tokens <N>        the most tokens of a format",
    "  --preview-examples <N>  the examples of a preview",
    "  -h, --help              show this text",
    "  -V, --version           show the version (before the command)",
    "",
    "Options of generate:",
    "  --inventory <N>  the inventory to make identifiers for",
    "  -n, --count <N>  how many identifiers to make",
    "  --start <N>      the first ordinal"]

namespace Refusal

/-- Help and version are asked for; all else is a fault. -/
def isRequest : Refusal → Bool
  | help | version => true
  | _ => false

def message : Refusal → String
  | unknownArgument => "error: unexpected argument"
  | badValue => "error: a value is not a number in range"
  | missingValue => "error: an option lacks its value"
  | surplusValue => "error: a flag does not take a value"
  | repeatedSetting => "error: an option is given twice"
  | missingFormat => "error: a format is required"
  | unknownCommand => "error: unrecognized command"
  | missingCommand => "error: a command is required"
  | nothingGiven | help => usage
  | version => versionText

end Refusal
end InventoryIds.CommandLine
