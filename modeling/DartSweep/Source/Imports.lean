import DartSweep.Text.Lines
import DartSweep.Text.Search

/-!
# Dead imports

An import is dead when it names a library that only the display getters used. Each line with one
of the given texts anywhere on it is dropped whole.
-/
namespace DartSweep

def displayImports : List Text :=
  ["import '../models/results/result_types.dart';".toList,
   "import '../models/results/display_sections.dart';".toList,
   "import \"results/result_types.dart\";".toList,
   "import \"results/display_sections.dart\";".toList,
   "import 'result_types.dart';".toList,
   "import 'display_sections.dart';".toList]

def isDeadImport (dead : List Text) (line : Text) : Bool :=
  dead.any fun needle => occursIn needle line

def dropImports (dead : List Text) (source : Text) : Text :=
  if dead.isEmpty then source
  else joinLines ((splitLines source).filter fun line => !isDeadImport dead line)

end DartSweep
