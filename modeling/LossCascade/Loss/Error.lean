/-!
# Errors of the loss calculation

A loss calculation fails when a collaborator has no answer, when an amount cannot be turned into
the unit it is needed in, or when the records cannot be fetched.
-/

namespace LossCascade

/-- Why losses cannot be calculated. -/
inductive LossError where
  /-- No work schedule is defined for the equipment. -/
  | missingSchedule (equipment : String)
  /-- No design speed is defined for the equipment and material. -/
  | missingDesignSpeed (equipment material : String)
  /-- A quantity is to become a time, but the design speed is not set. -/
  | unsetReferenceRate
  /-- What is written as `source` has no value as `target`. -/
  | invalidConversion (source target : String)
  /-- The records cannot be fetched. -/
  | summaryStore (reason : String)
deriving DecidableEq, Repr

/-- The message of an error of the loss calculation. -/
def LossError.message : LossError → String
  | missingSchedule equipment => "设备未定义工作日历: equipment=" ++ equipment
  | missingDesignSpeed equipment material =>
    "设备/物料未定义设计速度: equipment=" ++ equipment ++ ", material=" ++ material
  | unsetReferenceRate => "设计速度未设置, 无法将产量换算为时间"
  | invalidConversion source target => "单位换算无效: " ++ source ++ " -> " ++ target
  | summaryStore reason => "汇总数据读取失败: " ++ reason

end LossCascade
