import EntityTagger.Service
import EntityTagger.Settings.File
import EntityTagger.Tagger.File

/-!
Building the tagger of the service, as the settings say that are in force at that moment.
-/

namespace EntityTagger.Service

def start (fs : FileSystem) (cudaDevices : Nat) (env : Settings.Environment) : Run Tagger := do
  Tagger.ofSettings fs cudaDevices (← Settings.load fs env none)

end EntityTagger.Service
