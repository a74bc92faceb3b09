import LintReport.Config.Toml
import LintReport.Files

namespace LintReport.Config

inductive Error
  | file (e : FileError)
  | parse (e : Toml.Error)

def Error.message : Error → String
  | file e  => "IO error: " ++ e.message
  | parse e => "Parse error: " ++ e.message

def load (content : Except FileError ByteArray) : Except Error Config := do
  let text ← (content.bind decodeText).mapError .file
  (ofToml text).mapError .parse

end LintReport.Config
