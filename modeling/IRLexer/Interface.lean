/-!
# The interface

The version of the lexer, the names under which a parser finds its parts, and the name of the one
kind of lexical error.
-/

namespace IRLexer

def version : String := "0.1.0"

def exportNames : List String :=
  [
    "CtonError", "Ebb", "ErrorKind", "InvalidCharError", "LexError", "LocatedError",
    "LocatedToken", "Location", "ScanConfig", "ScanConfigError", "Scanner", "Token",
    "TokenKind", "Type", "Value", "__version__", "get_scan_config", "reset_scan_config",
    "scan_config_context", "set_scan_config", "split_entity_name", "tokenize",
    "trailing_digits"
  ]

def errorKind : String := "INVALID_CHAR"

end IRLexer
