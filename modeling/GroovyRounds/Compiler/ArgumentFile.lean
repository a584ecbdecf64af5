import GroovyRounds.Text.Utf8

/-!
# Argument files

What one compiler run is told: its sources, the classes compiled earlier, the
source encoding, patchers, output directories, and a classpath to load from.
One entry a line, in sections.
-/

namespace GroovyRounds

structure ArgumentFile where
  /-- The directory the compiler writes to. -/
  output : String
  sources : List String
  /-- The output roots of all targets. -/
  finalOutputs : List String
  /-- Classes compiled earlier, with their sources. -/
  classToSource : List (String × String)
  /-- Left out when absent or empty. -/
  encoding : Option String
  patchers : List String
  /-- Left out when empty. -/
  classpath : String
deriving DecidableEq, Repr

namespace ArgumentFile

def sourceMark : String := "src_file"

def endMark : String := "end"

def encodingMark : String := "encoding"

def sourceLines (file : ArgumentFile) : List String :=
  file.sources.flatMap fun source => [sourceMark, source]

def classLines (file : ArgumentFile) : List String :=
  file.classToSource.flatMap fun (name, source) => [name, source]

def encodingLines (file : ArgumentFile) : List String :=
  match file.encoding with
  | none | some "" => []
  | some encoding => [encodingMark, encoding]

def patcherLines (file : ArgumentFile) : List String :=
  if file.patchers.isEmpty then [] else ["patchers"] ++ file.patchers ++ [endMark]

def classpathLines (file : ArgumentFile) : List String :=
  if file.classpath.isEmpty then [] else ["classpath", file.classpath]

def linesBefore (file : ArgumentFile) : List String :=
  file.sourceLines ++ [endMark] ++ ["class2src"] ++ file.classLines ++ [endMark]

def lines (file : ArgumentFile) : List String :=
  file.linesBefore ++
    file.encodingLines ++
    file.patcherLines ++
    ["outputpath", file.output] ++
    ["finaloutputs"] ++ file.finalOutputs ++ [endMark] ++
    file.classpathLines

/-- How many lines stand before the one for the encoding. -/
def linesBeforeEncoding (file : ArgumentFile) : Nat :=
  file.linesBefore.length + 1

/-- How many characters stand before the encoding. -/
def lengthBeforeEncoding (file : ArgumentFile) : Nat :=
  ("\n".intercalate (file.linesBefore ++ [encodingMark]) ++ "\n").length

/-- The content: every line ends with a line feed. -/
def content (file : ArgumentFile) : String :=
  "\n".intercalate file.lines ++ "\n"

def bytes (file : ArgumentFile) : List UInt8 :=
  Text.Utf8.encodeText file.content

end ArgumentFile

end GroovyRounds
