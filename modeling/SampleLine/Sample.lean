/-
The sample command line, `example_text`.  It names the heap size twice and carries
one switch that does not exist, for the reports on repeated and unknown switches.
`isInvokedBy` is `is_example_invocation`.
-/
import SampleLine.Text.Basic

namespace SampleLine

namespace Sample

/-- The class that the sample starts.  It marks a command line as the sample. -/
def entryPoint : Text := "com.chrisnewland.someproject.SomeApplication".toList

/-- The parts of the sample in order, with markup characters already escaped. -/
def fragments : List Text :=
  ["/usr/bin/java".toList,
   "-Dfoo=bar".toList,
   "-cp=/all/the/jars".toList,
   "-java.library.path=/home/chris/lib".toList,
   "-Xmx8g".toList,
   "-XX:+UseG1GC".toList,
   "-XX:MaxGCPauseMillis=100".toList,
   "-XX:+UnlockDiagnosticVMOptions".toList,
   "-XX:+BADSWITCH".toList,
   "-XX:+LogCompilation".toList,
   "-XX:LogFile=&#34;/home/chris/hotspot.log&#34;".toList,
   "-XX:FreqInlineSize=512".toList,
   "-Xmx4g".toList,
   "-XX:+TraceRangeCheckElimination".toList,
   "-XX:+UnsyncloadClass".toList,
   "-XX:+UseSpinning".toList,
   "-XX:+PrintCodeHeapAnalytics".toList,
   "-XX:ReplaySuppressInitializers=4".toList,
   entryPoint]

/-- The sample command line: its parts with a space between each two. -/
def line : Text := List.intercalate [' '] fragments

/-- Whether a command line is the sample: whether it names the entry point. -/
def isInvokedBy (command : Text) : Bool :=
  Text.occursIn entryPoint command

example : line.length = 439 ∧ line.count '-' = 17 ∧ isInvokedBy line = true := by
  decide +kernel

end Sample

end SampleLine
