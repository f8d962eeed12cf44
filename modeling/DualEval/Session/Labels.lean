/-!
# Labels

The labels under which a session makes its objects.
-/

namespace DualEval.Session.Labels

def device : String := "prefix_calc_device"

def bindGroupLayout : String := "ExpressionBindGroupLayout"

def bindGroup : String := "ExpressionBindGroup"

def pipelineLayout : String := "ExpressionPipelineLayout"

def pipeline : String := "ExpressionPipeline"

def encoder : String := "ExpressionEncoder"

def pass : String := "ExpressionPass"

end DualEval.Session.Labels
